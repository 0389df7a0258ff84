import BackupTelebot.FormatTemplates

/-! The English message catalog. -/
namespace BackupTelebot.Messages

open PyFormat

set_option maxRecDepth 20000

/-- `section`. -/
def messageSection (icon title : Text) (body : Option Text) : Text :=
  let heading := icon ++ text " <b>" rfl ++ title ++ text "</b>" rfl
  match body with
  | none => heading
  | some body => heading ++ text "\n" rfl ++ body

def englishFirst : List (Text × Text) := [
  (text "local_validation_unavailable" rfl,
    text "Local source validation is temporarily unavailable. Please retry." rfl),
  (text "backups" rfl,text "💾 Backups" rfl),
  (text "admins" rfl,text "👥 Admins" rfl),
  (text "remote_servers" rfl,text "🖥 Remote Servers" rfl),
  (text "add_server" rfl,text "➕ Add Server" rfl),
  (text "edit_server" rfl,text "✏️ Edit Server" rfl),
  (text "delete_server" rfl,text "🗑 Delete Server" rfl),
  (text "refresh_servers" rfl,text "🔄 Refresh" rfl),
  (text "test_connection" rfl,text "🔌 Test Connection" rfl),
  (text "audit" rfl,text "🧾 Audit Log" rfl),
  (text "health" rfl,text "🩺 System Health" rfl),
  (text "settings" rfl,text "⚙️ Settings" rfl),
  (text "language" rfl,text "🌐 Language" rfl),
  (text "help" rfl,text "ℹ️ Help" rfl),
  (text "my_backups" rfl,text "📦 My Backups" rfl),
  (text "back" rfl,text "⬅️ Back" rfl),
  (text "home" rfl,text "🏠 Home" rfl),
  (text "cancel" rfl,text "❌ Cancel" rfl),
  (text "english" rfl,text "🇬🇧 English" rfl),
  (text "persian" rfl,text "🇮🇷 فارسی" rfl),
  (text "add_admin" rfl,text "➕ Add Admin" rfl),
  (text "edit_admin" rfl,text "✏️ Edit Admin" rfl),
  (text "delete_admin" rfl,text "🗑 Delete Admin" rfl),
  (text "refresh_admins" rfl,text "📋 Refresh Admins" rfl),
  (text "add_backup" rfl,text "➕ Add Backup" rfl),
  (text "edit_backup" rfl,text "✏️ Edit Backup" rfl),
  (text "delete_backup" rfl,text "🗑 Delete Backup" rfl),
  (text "refresh_backups" rfl,text "📋 Refresh Backups" rfl),
  (text "active_runs" rfl,text "⚙️ Active Runs" rfl),
  (text "active_runs_footer" rfl,messageSection (text "🧭" rfl) (text "Active Backups" rfl)
    (some (text "Use the controls above or return to the backups menu." rfl))),
  (text "run_history" rfl,text "📜 Run History" rfl),
  (text "run_details" rfl,text "🔎 Details" rfl),
  (text "cancel_run" rfl,text "⛔ Cancel Run" rfl),
  (text "retry_run" rfl,text "🔁 Retry" rfl),
  (text "purge_artifact" rfl,text "🗑 Purge Artifact" rfl),
  (text "edit" rfl,text "✏️ Edit" rfl),
  (text "delete" rfl,text "🗑 Delete" rfl),
  (text "backup_access" rfl,text "📦 Backup Access" rfl),
  (text "admin_access" rfl,text "👥 Admin Access" rfl),
  (text "change_name" rfl,text "✏️ Change Name" rfl),
  (text "change_telegram_id" rfl,text "🔢 Change Telegram ID" rfl),
  (text "change_language" rfl,text "🌐 Change Language" rfl),
  (text "toggle_enabled" rfl,text "🔘 Enable / Disable" rfl),
  (text "change_description" rfl,text "📝 Change Description" rfl),
  (text "run_backup_now" rfl,text "▶️ Run Backup Now" rfl),
  (text "reconfigure_backup" rfl,text "🛠 Edit Full Configuration" rfl),
  (text "save_access" rfl,text "✅ Save Access" rfl),
  (text "remove_all" rfl,text "🚫 Remove All" rfl),
  (text "confirm_delete" rfl,text "✅ Confirm Delete" rfl),
  (text "confirm" rfl,text "✅ Confirm" rfl),
  (text "previous_page" rfl,text "◀️ Previous" rfl),
  (text "next_page" rfl,text "Next ▶️" rfl),
  (text "welcome" rfl,messageSection (text "👋" rfl) (text "Welcome" rfl)
    (some (text "Manage your backups, runs, servers, and access from the menu below." rfl))),
  (text "cancelled" rfl,messageSection (text "❎" rfl) (text "Operation Cancelled" rfl)
    (some (text "No changes were saved." rfl))),
  (text "returned" rfl,messageSection (text "🏠" rfl) (text "Home" rfl)
    (some (text "Choose an option from the menu below." rfl))),
  (text "choose_menu" rfl,messageSection (text "🧭" rfl) (text "Main Menu" rfl)
    (some (text "Choose an option below." rfl))),
  (text "invalid" rfl,messageSection (text "⚠️" rfl) (text "Invalid Input" rfl)
    (some (text "Please check the value and try again." rfl))),
  (text "too_many_invalid" rfl,messageSection (text "⛔" rfl) (text "Operation Cancelled" rfl)
    (some (text "Too many invalid attempts were received. Please start again." rfl))),
  (text "expired" rfl,messageSection (text "⌛" rfl) (text "Session Expired" rfl)
    (some (text "Please start the operation again." rfl))),
  (text "no_choices" rfl,messageSection (text "ℹ️" rfl) (text "Nothing to Select" rfl)
    (some (text "No eligible items are currently available." rfl)))]

def englishSecond : List (Text × Text) := [
  (text "language_prompt" rfl,messageSection (text "🌐" rfl) (text "Language" rfl)
    (some (text "Choose your preferred language." rfl))),
  (text "language_saved" rfl,messageSection (text "✅" rfl) (text "Language Updated" rfl)
    (some (text "Your preference has been saved." rfl))),
  (text "admins_title" rfl,messageSection (text "👥" rfl) (text "Admin Access" rfl)
    (some (text "Manage administrators and their backup access." rfl))),
  (text "no_admins" rfl,messageSection (text "👥" rfl) (text "No Admins" rfl)
    (some (text "No administrator accounts have been created yet." rfl))),
  (text "admin_card" rfl,
    text "👤 <b>Admin Details</b>\n━━━━━━━━━━━━━━\n📌 <b>Name:</b> <code>{name}</code>\n🆔 <b>Telegram " rfl ++
      text "ID:</b> <code>{telegram_id}</code>\n📋 <b>Status:</b> {status}\n🌐 <b>Language:</b> " rfl ++
      text "{admin_language}\n━━━━━━━━━━━━━━\n📦 <b>Allowed Backups:</b> {backups}\n━━━━━━━━━━━━━━" rfl),
  (text "enabled" rfl,text "🟢 Enabled" rfl),
  (text "disabled" rfl,text "⚪ Disabled" rfl),
  (text "none" rfl,text "None" rfl),
  (text "language_en" rfl,text "English" rfl),
  (text "language_fa" rfl,text "Persian" rfl),
  (text "ask_admin_name" rfl,messageSection (text "👤" rfl) (text "Admin Name" rfl)
    (some (text "Enter a display name." rfl))),
  (text "ask_telegram_id" rfl,messageSection (text "🆔" rfl) (text "Telegram ID" rfl)
    (some (text "Enter the numeric Telegram user ID." rfl))),
  (text "ask_admin_language" rfl,messageSection (text "🌐" rfl) (text "Admin Language" rfl)
    (some (text "Choose the preferred language." rfl))),
  (text "admin_confirmation" rfl,
    text "👤 <b>Confirm Admin</b>\nName: <code>{name}</code>\nTelegram ID: " rfl ++
      text "<code>{telegram_id}</code>\nLanguage: {admin_language}\nCreate this admin?" rfl),
  (text "admin_created_access" rfl,messageSection (text "✅" rfl) (text "Admin Created" rfl)
    (some (text "Now assign backup access." rfl))),
  (text "admin_saved" rfl,messageSection (text "✅" rfl) (text "Admin Saved" rfl)
    (some (text "The account and backup access are up to date." rfl))),
  (text "select_admin_edit" rfl,messageSection (text "✏️" rfl) (text "Edit Admin" rfl)
    (some (text "Choose an administrator." rfl))),
  (text "select_admin_delete" rfl,messageSection (text "🗑" rfl) (text "Delete Admin" rfl)
    (some (text "Choose an administrator." rfl))),
  (text "edit_admin_prompt" rfl,messageSection (text "✏️" rfl) (text "Edit Admin" rfl)
    (some (text "Choose the field to update." rfl))),
  (text "ask_new_name" rfl,messageSection (text "👤" rfl) (text "New Name" rfl)
    (some (text "Enter the administrator's new display name." rfl))),
  (text "ask_new_telegram_id" rfl,messageSection (text "🆔" rfl) (text "New Telegram ID" rfl)
    (some (text "Enter the new numeric user ID." rfl))),
  (text "admin_updated" rfl,messageSection (text "✅" rfl) (text "Admin Updated" rfl)
    (some (text "The administrator details were saved." rfl))),
  (text "admin_status_changed" rfl,messageSection (text "✅" rfl) (text "Status Updated" rfl)
    (some (text "The administrator status was changed." rfl))),
  (text "admin_delete_summary" rfl,
    text "⚠️ <b>Delete Admin?</b>\nAdmin: <code>{name}</code>\nTelegram ID: " rfl ++
      text "<code>{telegram_id}</code>\nStatus: {status}\nLanguage: {admin_language}\nAccess will be " rfl ++
      text "revoked and the account disabled." rfl),
  (text "admin_deleted" rfl,messageSection (text "✅" rfl) (text "Admin Deleted" rfl)
    (some (text "The account was disabled and access revoked." rfl))),
  (text "select_backup_access" rfl,messageSection (text "📦" rfl) (text "Backup Access" rfl)
    (some (text "Select the backups this admin may use." rfl))),
  (text "access_saved" rfl,messageSection (text "✅" rfl) (text "Access Updated" rfl)
    (some (text "The access assignments were saved." rfl))),
  (text "no_active_operations" rfl,messageSection (text "✅" rfl) (text "No Active Backups" rfl)
    (some (text "There are currently no backup operations running." rfl))),
  (text "active_runs_overview" rfl,messageSection (text "⚙️" rfl) (text "Active Backups" rfl)
    (some (text "{count} backup run(s) are in progress." rfl))),
  (text "active_runs_title" rfl,messageSection (text "⚙️" rfl) (text "Active Backup Runs" rfl)
    (some (text "Currently active: <code>{count}</code>" rfl))),
  (text "no_run_history" rfl,messageSection (text "📜" rfl) (text "No Run History" rfl)
    (some (text "No backup runs have been recorded yet." rfl))),
  (text "run_history_header" rfl,messageSection (text "📜" rfl) (text "Run History" rfl)
    (some (text "Page {page} of {pages} · <code>{total}</code> total" rfl))),
  (text "run_history_footer" rfl,messageSection (text "🧭" rfl) (text "Run History" rfl)
    (some (text "Use the buttons below to navigate." rfl))),
  (text "size_unknown" rfl,text "Unknown" rfl),
  (text "run_size_summary" rfl,
    text "📦 Original Backup Size: {original_size}\n🗜 Final Backup Size: {final_size}" rfl),
  (text "run_list_card" rfl,
    text "🔎 <b>Run #</b><code>{run_id}</code> · <code>{profile}</code>\n━━━━━━━━━━━━━━\n📋 " rfl ++
      text "<b>Status:</b> {status}\n⚙️ <b>Stage:</b> {stage}\n🕒 <b>Created:</b> " rfl ++
      text "{created}{size_summary}\n━━━━━━━━━━━━━━" rfl),
  (text "run_detail_card" rfl,
    text "🔎 <b>Backup Run Details</b>\n━━━━━━━━━━━━━━\n🆔 <b>Run ID:</b> <code>{run_id}</code>\n📌 " rfl ++
      text "<b>Profile:</b> <code>{profile}</code>\n📋 <b>Status:</b> {status}\n⚙️ <b>Stage:</b> " rfl ++
      text "{stage}\n▶️ <b>Trigger:</b> {trigger}\n{source_details}\n━━━━━━━━━━━━━━\n🕒 <b>Created:</b> " rfl ++
      text "{created}\n📅 <b>Scheduled:</b> {scheduled}\n🚀 <b>Started:</b> {started}\n🏁 <b>Finished:</b> " rfl ++
      text "{finished}\n🌍 <b>Timezone:</b> {timezone}\n━━━━━━━━━━━━━━\n⚠️ <b>Error Code:</b> " rfl ++
      text "<code>{error_code}</code>\n📝 <b>Safe Error:</b> {error_message}\n━━━━━━━━━━━━━━\n📦 " rfl ++
      text "<b>Original Backup Size:</b> {original_size}\n🗜 <b>Final Backup Size:</b> {final_size}\n📁 " rfl ++
      text "<b>Artifact:</b> {artifact}\n📨 <b>Deliveries:</b> Pending: <code>{pending}</code> · " rfl ++
      text "Succeeded: <code>{succeeded}</code>\nFailed: <code>{failed}</code> · Skipped: " rfl ++
      text "<code>{skipped}</code>\n━━━━━━━━━━━━━━" rfl),
  (text "run_cancel_requested" rfl,messageSection (text "⛔" rfl) (text "Cancellation Requested" rfl)
    (some (text "Run <code>#{run_id}</code> will stop safely." rfl))),
  (text "run_delivery_retry_requested" rfl,
    text "🔁 <b>Delivery Retry Queued</b>\nFailed deliveries for run <code>#{run_id}</code> will be " rfl ++
      text "retried." rfl),
  (text "run_retry_queued" rfl,messageSection (text "✅" rfl) (text "Retry Queued" rfl)
    (some (text "New run: <code>#{run_id}</code>" rfl))),
  (text "run_artifact_purge_complete" rfl,
    text "✅ <b>Artifact Purged</b>\nThe retained artifact for run <code>#{run_id}</code> was removed." rfl),
  (text "run_artifact_purge_confirm" rfl,
    text "⚠️ <b>Purge Retained Artifact?</b>\nPermanently remove the verified artifact for run " rfl ++
      text "<code>#{run_id}</code>? Database history will be kept." rfl),
  (text "run_action_unavailable" rfl,messageSection (text "⚠️" rfl) (text "Action Unavailable" rfl)
    (some (text "This run action is no longer available or safe to perform." rfl))),
  (text "run_artifact_retained" rfl,text "Retained ({size:,} bytes)" rfl),
  (text "run_artifact_purged" rfl,text "Purged; database history retained" rfl),
  (text "run_artifact_delivered" rfl,text "Delivery completed ({size:,} bytes)" rfl),
  (text "run_error_cancelled" rfl,text "The run was cancelled by an operator." rfl),
  (text "run_error_timeout" rfl,text "The configured backup deadline was exceeded." rfl),
  (text "run_error_delivery_action_required" rfl,
    text "Automatic delivery stopped and requires operator action." rfl),
  (text "run_error_upload_limit" rfl,text "The artifact exceeds the configured upload limit." rfl),
  (text "run_error_artifact_invalid" rfl,
    text "The retained artifact is unavailable or failed verification." rfl),
  (text "run_error_generic" rfl,
    text "The run failed; detailed diagnostics are available only in protected logs." rfl),
  (text "run_trigger_manual" rfl,text "Manual" rfl),
  (text "run_trigger_scheduled" rfl,text "Scheduled" rfl),
  (text "run_status_queued" rfl,text "🟡 Queued" rfl),
  (text "run_status_running" rfl,text "🟡 Running" rfl),
  (text "run_status_delivery_pending" rfl,text "🟡 Delivery pending" rfl),
  (text "run_status_succeeded" rfl,text "🟢 Succeeded" rfl),
  (text "run_status_failed" rfl,text "🔴 Failed" rfl),
  (text "run_status_cancelled" rfl,text "⚪ Cancelled" rfl)]

def englishThird : List (Text × Text) := [
  (text "run_status_skipped" rfl,text "⚪ Skipped" rfl),
  (text "run_stage_queued" rfl,text "Queued" rfl),
  (text "run_stage_backup" rfl,text "Backup" rfl),
  (text "run_stage_verify_source" rfl,text "Verifying source" rfl),
  (text "run_stage_compress" rfl,text "Compressing" rfl),
  (text "run_stage_encrypt" rfl,text "Encrypting" rfl),
  (text "run_stage_checksum" rfl,text "Checksumming" rfl),
  (text "run_stage_finalize" rfl,text "Finalizing" rfl),
  (text "run_stage_pending_delivery" rfl,text "Pending delivery" rfl),
  (text "run_stage_telegram_delivery" rfl,text "Telegram delivery" rfl),
  (text "run_stage_cleanup" rfl,text "Cleanup" rfl),
  (text "run_stage_complete" rfl,text "Complete" rfl),
  (text "no_backups" rfl,messageSection (text "📦" rfl) (text "No Backup Profiles" rfl)
    (some (text "No backup profiles have been created yet." rfl))),
  (text "backups_title" rfl,messageSection (text "📦" rfl) (text "Backup Profiles" rfl)
    (some (text "Manage profiles, runs, and access." rfl))),
  (text "backup_card" rfl,
    text "📦 <b>Backup Profile</b>\n━━━━━━━━━━━━━━\n📌 <b>Name:</b> <code>{name}</code>\n📁 <b>Source:</b> " rfl ++
      text "{source}\n🖥 <b>Remote Server:</b> <code>{server}</code>\n⏰ <b>Schedule:</b> " rfl ++
      text "{schedule}{next_run}\n🌍 <b>Timezone:</b> " rfl ++
      text "{timezone}\n{source_details}\n\n{archive_compression}\n\n━━━━━━━━━━━━━━\n🔐 " rfl ++
      text "<b>Encryption:</b> {encryption}\n📋 <b>Profile Status:</b> {status}\n✅ <b>Enabled:</b> " rfl ++
      text "{enabled}\n━━━━━━━━━━━━━━\n👥 <b>Access:</b> {admins}\n━━━━━━━━━━━━━━" rfl),
  (text "ask_backup_name" rfl,text "📦 <b>Backup Name</b>\nEnter a name for this backup profile." rfl),
  (text "ask_edit_backup_name" rfl,
    text "📦 <b>Backup Name</b>\nEnter a new name, or send <code>-</code> to keep “{current}”." rfl),
  (text "ask_edit_description" rfl,
    text "📝 <b>Description</b>\nEnter a new description, send <code>-</code> to keep it, or " rfl ++
      text "<code>!</code> to clear it." rfl),
  (text "ask_edit_database_password" rfl,messageSection (text "🔐" rfl) (text "Database Password" rfl)
    (some (text "Enter a replacement, or send <code>-</code> to keep it." rfl))),
  (text "ask_edit_age_passphrase" rfl,messageSection (text "🔐" rfl) (text "Age Passphrase" rfl)
    (some (text "Enter a replacement, or send <code>-</code> to keep it." rfl))),
  (text "edit_keep_hint" rfl,messageSection (text "ℹ️" rfl) (text "Editing" rfl)
    (some (text "Send <code>-</code> to keep an existing non-secret value." rfl))),
  (text "ask_description" rfl,
    text "📝 <b>Description</b>\nEnter a description, or send <code>-</code> to leave it empty." rfl),
  (text "choose_source" rfl,text "🧩 <b>Source Type</b>\nChoose what you want to back up." rfl),
  (text "source_database" rfl,text "🗄 Database" rfl),
  (text "source_files_directories" rfl,text "📁 Files & Directories" rfl),
  (text "source_gitlab" rfl,text "🦊 GitLab" rfl),
  (text "database_postgresql" rfl,text "PostgreSQL" rfl),
  (text "database_mysql" rfl,text "MySQL / MariaDB" rfl),
  (text "database_mssql" rfl,text "Microsoft SQL Server" rfl),
  (text "tls_disabled" rfl,text "TLS Disabled" rfl),
  (text "tls_preferred" rfl,text "TLS Preferred" rfl),
  (text "tls_required" rfl,text "TLS Required" rfl),
  (text "tls_verify_ca" rfl,text "TLS Verify CA" rfl),
  (text "tls_verify_full" rfl,text "TLS Verify Full" rfl),
  (text "location_local" rfl,text "Local Host" rfl),
  (text "location_remote" rfl,text "Remote Server" rfl),
  (text "schedule_manual" rfl,text "Manual Only" rfl),
  (text "schedule_once" rfl,text "Once" rfl),
  (text "schedule_minutes" rfl,text "Every N Minutes" rfl),
  (text "schedule_hours" rfl,text "Every N Hours" rfl),
  (text "schedule_days" rfl,text "Every N Days" rfl),
  (text "schedule_minutes_value" rfl,text "Every {value} minutes" rfl),
  (text "schedule_hours_value" rfl,text "Every {value} hours" rfl),
  (text "schedule_days_value" rfl,text "Every {value} days" rfl),
  (text "schedule_daily_value" rfl,text "Daily at {value}" rfl),
  (text "schedule_weekly_value" rfl,text "Weekly on day {day} at {time}" rfl),
  (text "schedule_monthly_value" rfl,text "Monthly on day {day} at {time}" rfl),
  (text "schedule_cron_value" rfl,text "Cron: {value}" rfl),
  (text "schedule_daily" rfl,text "Daily" rfl),
  (text "schedule_weekly" rfl,text "Weekly" rfl),
  (text "schedule_monthly" rfl,text "Monthly" rfl),
  (text "schedule_cron" rfl,text "📅 Cron Schedule" rfl),
  (text "compression_none" rfl,text "◻️ None" rfl),
  (text "archive_tar" rfl,text "📦 TAR ✓" rfl),
  (text "archive_zip" rfl,text "📦 ZIP" rfl),
  (text "archive_7z" rfl,text "📦 7-Zip" rfl),
  (text "archive_tar_name" rfl,text "TAR" rfl),
  (text "archive_zip_name" rfl,text "ZIP" rfl),
  (text "archive_7z_name" rfl,text "7-Zip" rfl),
  (text "compression_zstandard" rfl,text "🚀 Zstandard ✓" rfl)]

def englishFourth : List (Text × Text) := [
  (text "compression_gzip" rfl,text "🌐 Gzip" rfl),
  (text "compression_xz" rfl,text "💾 XZ" rfl),
  (text "compression_lz4" rfl,text "⚡ LZ4" rfl),
  (text "compression_bzip2" rfl,text "📚 Bzip2" rfl),
  (text "compression_zip" rfl,text "ZIP" rfl),
  (text "compression_7z" rfl,text "7z" rfl),
  (text "compression_zstandard_name" rfl,text "Zstandard" rfl),
  (text "compression_gzip_name" rfl,text "Gzip" rfl),
  (text "compression_xz_name" rfl,text "XZ (LZMA2)" rfl),
  (text "compression_bzip2_name" rfl,text "Bzip2 (legacy)" rfl),
  (text "compression_lz4_name" rfl,text "LZ4" rfl),
  (text "compression_deflate_name" rfl,text "Deflate (built into ZIP)" rfl),
  (text "compression_lzma2_name" rfl,text "LZMA2 (built into 7-Zip)" rfl),
  (text "preset_fast" rfl,text "⚡ Fast" rfl),
  (text "preset_balanced" rfl,text "⚖️ Balanced ✓" rfl),
  (text "preset_high" rfl,text "High" rfl),
  (text "preset_maximum" rfl,text "📦 Maximum Compression" rfl),
  (text "preset_fast_display" rfl,text "Fast" rfl),
  (text "preset_balanced_display" rfl,text "Balanced" rfl),
  (text "preset_high_display" rfl,text "Maximum Compression" rfl),
  (text "preset_maximum_display" rfl,text "Maximum Compression" rfl),
  (text "preset_not_applicable" rfl,text "Not applicable" rfl),
  (text "encryption_none" rfl,text "No Encryption" rfl),
  (text "encryption_age_public" rfl,text "Age Public-Key — recommended" rfl),
  (text "encryption_age_passphrase" rfl,text "Age Passphrase" rfl),
  (text "ask_server_name" rfl,messageSection (text "🖥" rfl) (text "Server Name" rfl)
    (some (text "Enter a unique name for this server." rfl))),
  (text "ask_server_host" rfl,messageSection (text "🌐" rfl) (text "Server Address" rfl)
    (some (text "Enter the hostname or IP address." rfl))),
  (text "ask_server_port" rfl,messageSection (text "🔌" rfl) (text "SSH Port" rfl)
    (some (text "Enter the SSH port number." rfl))),
  (text "ask_server_username" rfl,messageSection (text "👤" rfl) (text "SSH Username" rfl)
    (some (text "Enter the SSH account name." rfl))),
  (text "ask_server_private_key" rfl,
    text "🔐 <b>SSH Private Key</b>\nSend the private key. It will be encrypted and never displayed." rfl),
  (text "ask_server_passphrase" rfl,messageSection (text "🔑" rfl) (text "Key Passphrase" rfl)
    (some (text "Enter the passphrase, or send <code>-</code> if there is none." rfl))),
  (text "ask_server_name_edit" rfl,messageSection (text "🖥" rfl) (text "Server Name" rfl)
    (some (text "Enter the replacement name." rfl))),
  (text "server_fingerprint_confirm" rfl,
    text "🛡 <b>Trust SSH Host Key?</b>\nConnection succeeded. Verify and trust this " rfl ++
      text "fingerprint:\n<code>{fingerprint}</code>" rfl),
  (text "server_saved" rfl,messageSection (text "✅" rfl) (text "Server Saved" rfl)
    (some (text "SSH host-key verification is pinned." rfl))),
  (text "server_updated" rfl,messageSection (text "✅" rfl) (text "Server Updated" rfl)
    (some (text "The new SSH host key is trusted and pinned." rfl))),
  (text "edit_server_prompt" rfl,messageSection (text "✏️" rfl) (text "Edit Remote Server" rfl)
    (some (text "Choose what to update." rfl))),
  (text "reconfigure_server" rfl,text "🔐 Replace Connection Details" rfl),
  (text "server_status_changed" rfl,messageSection (text "✅" rfl) (text "Status Updated" rfl)
    (some (text "The remote server status was changed." rfl))),
  (text "server_deleted" rfl,messageSection (text "✅" rfl) (text "Server Deleted" rfl)
    (some (text "The remote server was removed." rfl))),
  (text "server_delete_prompt" rfl,messageSection (text "⚠️" rfl) (text "Delete Remote Server?" rfl)
    (some (text "Review the server below, then confirm permanent deletion." rfl))),
  (text "server_test_ok" rfl,messageSection (text "✅" rfl) (text "Connection Verified" rfl)
    (some (text "SSH connected and the host key matches." rfl))),
  (text "servers_title" rfl,messageSection (text "🖥" rfl) (text "Remote Servers" rfl)
    (some (text "Manage trusted backup source servers." rfl))),
  (text "no_servers" rfl,messageSection (text "🖥" rfl) (text "No Remote Servers" rfl)
    (some (text "No remote servers have been added yet." rfl))),
  (text "server_card" rfl,
    text "🖥 <b>Remote Server Details</b>\n━━━━━━━━━━━━━━\n📌 <b>Server Name:</b> <code>{name}</code>\n🌐 " rfl ++
      text "<b>Address:</b> <code>{host}:{port}</code>\n👤 <b>User:</b> <code>{username}</code>\n🔐 " rfl ++
      text "<b>Authentication:</b> {authentication}\n🛡 <b>Fingerprint:</b> " rfl ++
      text "<code>{fingerprint}</code>\n📋 <b>Status:</b> {status}\n━━━━━━━━━━━━━━" rfl),
  (text "ssh_private_key" rfl,text "SSH private key" rfl),
  (text "choose_database_engine" rfl,messageSection (text "🗄" rfl) (text "Database Engine" rfl)
    (some (text "Choose one database type." rfl))),
  (text "choose_tls" rfl,messageSection (text "🛡" rfl) (text "Database TLS" rfl)
    (some (text "Choose the TLS/SSL verification mode." rfl))),
  (text "ask_tls_ca" rfl,messageSection (text "📜" rfl) (text "Trusted CA" rfl)
    (some (text "Send the CA certificate in PEM format." rfl))),
  (text "ask_database_host" rfl,messageSection (text "🌐" rfl) (text "Database Host" rfl)
    (some (text "Enter the hostname or IP address." rfl))),
  (text "ask_database_port" rfl,messageSection (text "🔌" rfl) (text "Database Port" rfl)
    (some (text "Enter the port number." rfl))),
  (text "ask_database_name" rfl,messageSection (text "🗄" rfl) (text "Database Name" rfl)
    (some (text "Enter exactly one database name." rfl))),
  (text "ask_database_username" rfl,messageSection (text "👤" rfl) (text "Database Username" rfl)
    (some (text "Enter the backup account name." rfl))),
  (text "ask_database_password" rfl,messageSection (text "🔐" rfl) (text "Database Password" rfl)
    (some (text "Enter the password. It will never be displayed." rfl))),
  (text "ask_mssql_docker" rfl,messageSection (text "🐳" rfl) (text "SQL Server Runtime" rfl)
    (some (text "Is SQL Server running in Docker?" rfl))),
  (text "ask_mssql_backup_path" rfl,messageSection (text "📂" rfl) (text "SQL Server Backup Path" rfl)
    (some (text "Enter the destination path inside SQL Server or its container." rfl))),
  (text "ask_mssql_host_path" rfl,messageSection (text "📂" rfl) (text "Remote Host Path" rfl)
    (some (text "Enter the corresponding mounted path on the remote host." rfl))),
  (text "choose_location" rfl,messageSection (text "📍" rfl) (text "Source Location" rfl)
    (some (text "Choose where the files or directories live." rfl))),
  (text "ask_paths" rfl,messageSection (text "📂" rfl) (text "Files & Directories" rfl)
    (some (text "Enter one or more absolute paths, one per line." rfl))),
  (text "choose_gitlab_location" rfl,
    text "📍 <b>GitLab Location</b>\nWhere is this GitLab instance running?" rfl),
  (text "ask_gitlab_container" rfl,text "🐳 <b>GitLab Container</b>\nEnter the Docker container name." rfl)]

def englishFifth : List (Text × Text) := [
  (text "ask_gitlab_remote_path" rfl,
    text "📂 <b>GitLab Backup Directory</b>\nEnter the directory on the remote server (for example, " rfl ++
      text "<code>/opt/gitlab/data/backups</code>)." rfl),
  (text "no_remote_servers_available" rfl,
    text "⚠️ <b>No Remote Servers Available</b>\nYou do not have any enabled remote servers yet.\nAdd a " rfl ++
      text "remote server first, or choose Local Host." rfl),
  (text "gitlab_path_information" rfl,
    text "📁 <b>GitLab Backup Directory</b>\nConfigured helper-visible native " rfl ++
      text "path:\n{native_path}\nVerified staging path shared with the worker:\n{staging_path}\nThe " rfl ++
      text "operator configures the native host mount with GITLAB_BACKUP_HOST_PATH. No path input is " rfl ++
      text "needed. Only the helper accesses the native directory." rfl),
  (text "gitlab_paths_unconfigured" rfl,
    text "📁 <b>GitLab Backup Directory</b>\nThe helper controls the native directory; no path input is " rfl ++
      text "needed. Helper path information is unavailable in this deployment. Configure " rfl ++
      text "GITLAB_BACKUP_ROOT to match the helper before using Local GitLab." rfl),
  (text "gitlab_exclusive_warning" rfl,
    text "🛡 <b>Verified Native Acquisition</b>\nThe local helper removes only the exact native artifact " rfl ++
      text "after its staged size and SHA-256 have been verified.\nGitLab application backups do not " rfl ++
      text "include all configuration/secrets. Back up <code>gitlab.rb</code> and " rfl ++
      text "<code>gitlab-secrets.json</code> separately for complete recovery." rfl),
  (text "gitlab_source_details_local" rfl,
    text "\n🦊 <b>GitLab source</b>\n📍 <b>Location:</b> {location}\n<b>Container:</b> {container}" rfl),
  (text "gitlab_source_details_remote" rfl,
    text "\n🦊 <b>GitLab source</b>\n📍 <b>Location:</b> {location}\n<b>Container:</b> " rfl ++
      text "{container}\n<b>Backup Path:</b> {backup_path}" rfl),
  (text "choose_schedule" rfl,messageSection (text "⏰" rfl) (text "Backup Schedule" rfl)
    (some (text "Choose a schedule. Times use <code>{timezone}</code>." rfl))),
  (text "ask_schedule_interval" rfl,messageSection (text "🔁" rfl) (text "Schedule Interval" rfl)
    (some (text "Enter a positive whole number." rfl))),
  (text "ask_schedule_daily" rfl,messageSection (text "🕒" rfl) (text "Daily Time" rfl)
    (some (text "Enter the time as <code>HH:MM</code>." rfl))),
  (text "ask_schedule_weekly" rfl,messageSection (text "📅" rfl) (text "Weekly Schedule" rfl)
    (some (text "Enter weekday and time as <code>0 HH:MM</code> (0=Monday, 6=Sunday)." rfl))),
  (text "ask_schedule_monthly" rfl,messageSection (text "📅" rfl) (text "Monthly Schedule" rfl)
    (some (text "Enter day and time as <code>1 HH:MM</code> (day 1–28)." rfl))),
  (text "ask_schedule_cron" rfl,
    text "📅 <b>Cron Schedule</b>\nTimezone: <code>{timezone}</code>.\nUse 5-field Linux cron in the " rfl ++
      text "configured backup timezone:\n<code>minute hour day-of-month month " rfl ++
      text "day-of-week</code>\n\n<code>30 3 * * *</code> → daily at 03:30\n<code>10 * * * *</code> → " rfl ++
      text "hourly at minute 10\n<code>0 2 1 * *</code> → 1st of each month at 02:00\n\nSend your cron " rfl ++
      text "expression." rfl),
  (text "choose_remote_server" rfl,text "🌐 <b>Remote Server</b>\nChoose the server hosting this source." rfl),
  (text "choose_assigned_admins" rfl,messageSection (text "👥" rfl) (text "Admin Access" rfl)
    (some (text "Select administrators, then choose Save Access." rfl))),
  (text "archive_explanation" rfl,
    text "📦 <b>Archive Format</b>\nAn archive groups files into one package. It does not necessarily " rfl ++
      text "reduce their size; compression is selected separately.\n\n━━━━━━━━━━━━━━\n🗃 TAR " rfl ++
      text "(Recommended)\n• Extension: .tar\n• Container only; preserves Unix metadata\n• " rfl ++
      text "Compatibility: excellent on Linux/macOS; widely supported elsewhere\n• Use for: server " rfl ++
      text "backups and file trees\n\n━━━━━━━━━━━━━━\n🗃 ZIP\n• Extension: .zip\n• Cross-platform " rfl ++
      text "container\n• Compatibility: built into Windows, macOS, and Linux desktops\n• Use for: " rfl ++
      text "convenient sharing\n\n━━━━━━━━━━━━━━\n🗃 7Z\n• Extension: .7z\n• Modern flexible " rfl ++
      text "container\n• Compatibility: requires 7-Zip or a compatible extractor on many systems\n• Use " rfl ++
      text "for: tooling-rich environments" rfl),
  (text "compression_explanation" rfl,
    text "🗜 <b>Compression</b>\nCompression reduces the archive size. Higher ratios usually cost more " rfl ++
      text "CPU and time. The algorithm is independent of the archive container.\n\n━━━━━━━━━━━━━━\n◻️ " rfl ++
      text "None · no extension · ratio none · fastest · CPU minimal\n🚀 Zstandard (Recommended) · .zst " rfl ++
      text "· ratio high · fast · CPU medium\n🌐 Gzip · .gz · ratio medium · medium speed · CPU " rfl ++
      text "medium\n📚 bzip2 · .bz2 · ratio high · slow · CPU high\n💾 XZ (LZMA2) · .xz · ratio very high " rfl ++
      text "· very slow · CPU high\n⚡ LZ4 · .lz4 · ratio low · extremely fast · CPU low" rfl),
  (text "compression_lz4_unavailable" rfl,
    text "⚡ LZ4 is not available in the current backup worker. Choose another algorithm; your backup " rfl ++
      text "configuration has not been changed." rfl),
  (text "choose_compression_preset" rfl,
    text "🗜 <b>Compression Preset</b>\nChoose the speed and size balance. Balanced is recommended." rfl),
  (text "choose_encryption" rfl,messageSection (text "🔐" rfl) (text "Encryption" rfl)
    (some (text "Choose how the final backup is protected." rfl))),
  (text "ask_age_recipients" rfl,messageSection (text "🔑" rfl) (text "Age Recipients" rfl)
    (some (text "Enter public recipient keys, one per line." rfl))),
  (text "ask_age_passphrase" rfl,
    text "🔐 <b>Age Passphrase</b>\nEnter the passphrase. It will be encrypted and never displayed." rfl),
  (text "profile_confirmation" rfl,
    text "📋 <b>Confirm Backup Profile</b>\n━━━━━━━━━━━━━━\n📌 <b>Name:</b> <code>{name}</code>\n📁 " rfl ++
      text "<b>Source:</b> {source}\n🖥 <b>Remote Server:</b> <code>{server}</code>\n⏰ <b>Schedule:</b> " rfl ++
      text "{schedule}\n🌍 <b>Timezone:</b> " rfl ++
      text "{timezone}\n{source_details}\n\n{archive_compression}\n\n━━━━━━━━━━━━━━\n🔐 " rfl ++
      text "<b>Encryption:</b> {encryption}\n📋 <b>Profile Status:</b> {status}\n✅ <b>Enabled:</b> " rfl ++
      text "{enabled}\n━━━━━━━━━━━━━━\n👥 <b>Access:</b> {admins}\n━━━━━━━━━━━━━━\nNo secret values are " rfl ++
      text "shown." rfl),
  (text "compression_summary" rfl,
    text "<b>Algorithm:</b> {algorithm}\n<b>Preset:</b> {preset}\n<b>Extension:</b> " rfl ++
      text "<code>{extension}</code>" rfl),
  (text "archive_summary" rfl,
    text "<b>Format:</b> {archive}\n<b>Extension:</b> <code>{extension}</code>\n<b>Output:</b> " rfl ++
      text "<code>{output}</code>" rfl),
  (text "archive_compression_sections" rfl,
    text "━━━━━━━━━━━━━━\n🗜 <b>Compression</b>\n{compression}\n\n━━━━━━━━━━━━━━\n📦 " rfl ++
      text "<b>Archive</b>\n{archive}" rfl),
  (text "file_directory_path" rfl,text "📂 <b>Path (File / Directory):</b> <code>{path}</code>" rfl),
  (text "file_source_details" rfl,text "📍 <b>Location:</b> {location}\n{paths}" rfl),
  (text "database_source_details" rfl,text "⚙️ <b>Engine:</b> {engine}" rfl),
  (text "run_source_details" rfl,text "📁 <b>Source:</b> {source}\n{details}" rfl),
  (text "source_location_local" rfl,text "Local Host" rfl),
  (text "source_location_remote" rfl,text "Remote Server" rfl),
  (text "backup_timezone" rfl,text "🕓 Backup Timezone" rfl),
  (text "timezone_heading" rfl,text "🕒 Backup Timezone" rfl),
  (text "ask_backup_timezone" rfl,messageSection (text "🕓" rfl) (text "Backup Timezone" rfl)
    (some (text "Enter an IANA timezone, for example <code>Asia/Tehran</code>." rfl))),
  (text "status_draft" rfl,text "🟡 Draft" rfl),
  (text "status_archived" rfl,text "⚪ Archived" rfl),
  (text "backup_created" rfl,messageSection (text "✅" rfl) (text "Backup Profile Saved" rfl)
    (some (text "Draft <code>{name}</code> was created." rfl))),
  (text "backup_setup_expired" rfl,
    text "⌛ <b>Setup Expired</b>\nThis session expired. Please restart backup profile creation." rfl),
  (text "backup_confirm_missing" rfl,
    text "⚠️ <b>Incomplete Profile</b>\nMissing field: <code>{field}</code>. Return to that step and " rfl ++
      text "complete it." rfl),
  (text "backup_confirm_invalid_state" rfl,
    text "⚠️ <b>Confirmation Mismatch</b>\nThis confirmation does not match the current setup step. " rfl ++
      text "Review the profile again." rfl),
  (text "backup_confirm_stale" rfl,
    text "⚠️ <b>Outdated Confirmation</b>\nUse the button on the newest confirmation message." rfl),
  (text "backup_confirm_unavailable" rfl,
    text "⚠️ <b>Saving Unavailable</b>\nSecure storage is not configured. Contact the operator." rfl),
  (text "backup_confirm_validation_failed" rfl,
    text "⚠️ <b>Validation Failed</b>\nPlease review the profile: {reason}" rfl),
  (text "backup_confirm_save_failed" rfl,
    text "⚠️ <b>Profile Not Saved</b>\nAn internal error occurred. No setup changes were accepted." rfl),
  (text "select_backup_edit" rfl,messageSection (text "✏️" rfl) (text "Edit Backup" rfl)
    (some (text "Choose a backup profile." rfl))),
  (text "select_backup_delete" rfl,messageSection (text "🗑" rfl) (text "Delete Backup" rfl)
    (some (text "Choose a backup profile." rfl))),
  (text "edit_backup_prompt" rfl,messageSection (text "✏️" rfl) (text "Edit Backup" rfl)
    (some (text "Choose the field to update." rfl))),
  (text "backup_updated" rfl,messageSection (text "✅" rfl) (text "Backup Updated" rfl)
    (some (text "The profile changes were saved." rfl))),
  (text "backup_configuration_updated" rfl,messageSection (text "✅" rfl) (text "Configuration Updated" rfl)
    (some (text "Backup <code>{name}</code> was updated atomically." rfl))),
  (text "current_value" rfl,text "<b>Current value:</b>" rfl),
  (text "existing_credential" rfl,
    text "🔐 <b>Credential Stored</b>\nEnter a new value or keep the existing secret." rfl),
  (text "backup_status_changed" rfl,messageSection (text "✅" rfl) (text "Status Updated" rfl)
    (some (text "The backup profile status was changed." rfl))),
  (text "backup_run_queued" rfl,messageSection (text "✅" rfl) (text "Backup Queued" rfl)
    (some (text "Run <code>#{run_id}</code> is ready to start." rfl))),
  (text "backup_run_active" rfl,messageSection (text "⚙️" rfl) (text "Backup Already Running" rfl)
    (some (text "Stage: {stage}\nStarted: {started}" rfl))),
  (text "backup_backpressure" rfl,messageSection (text "⚠️" rfl) (text "Backups Paused" rfl)
    (some (text "Delivery storage has reached its configured safety limit." rfl))),
  (text "backup_delete_summary" rfl,
    text "⚠️ <b>Archive Backup?</b>\nName: <code>{name}</code>\nSource: {source}\nStatus: " rfl ++
      text "{status}\nAssigned access will be revoked." rfl),
  (text "backup_deleted" rfl,messageSection (text "✅" rfl) (text "Backup Archived" rfl)
    (some (text "Assigned access has been revoked." rfl))),
  (text "select_admin_access" rfl,messageSection (text "👥" rfl) (text "Admin Access" rfl)
    (some (text "Select administrators allowed to use this backup." rfl))),
  (text "my_backups_title" rfl,messageSection (text "📦" rfl) (text "My Backups" rfl)
    (some (text "Choose one of your assigned backup profiles." rfl)))]

def englishSixth : List (Text × Text) := [
  (text "audit_empty" rfl,messageSection (text "🧾" rfl) (text "No Audit Events" rfl)
    (some (text "No activity has been recorded yet." rfl))),
  (text "audit_title" rfl,messageSection (text "🧾" rfl) (text "Audit Log" rfl)
    (some (text "Recent system activity" rfl))),
  (text "help_text" rfl,messageSection (text "ℹ️" rfl) (text "Help" rfl)
    (some (text "Use the menu buttons below to manage your backups." rfl))),
  (text "permission_invalid" rfl,messageSection (text "⛔" rfl) (text "Option Unavailable" rfl)
    (some (text "You cannot use this option here." rfl))),
  (text "caption_backup_completed" rfl,text "📦 <b>Backup Completed</b>" rfl),
  (text "caption_profile" rfl,text "📌 <b>Profile:</b> {value}" rfl),
  (text "caption_status" rfl,text "🟢 <b>Status:</b> Completed" rfl),
  (text "caption_started" rfl,text "⏱ <b>Started:</b> {value}" rfl),
  (text "caption_completed" rfl,text "🏁 <b>Completed:</b> {value}" rfl),
  (text "caption_schedule" rfl,text "⏰ <b>Schedule:</b> {value}" rfl),
  (text "caption_next_run" rfl,text "⏭ <b>Next run:</b> {value}" rfl),
  (text "caption_timezone" rfl,text "🌍 <b>Timezone:</b> {value}" rfl),
  (text "caption_source" rfl,text "🌐 <b>Source:</b> {value}" rfl),
  (text "caption_source_database_value" rfl,text "Database" rfl),
  (text "caption_database_type" rfl,text "🗄 <b>Database Type:</b> {value}" rfl),
  (text "caption_engine" rfl,text "⚙️ <b>Engine:</b> {value}" rfl),
  (text "caption_server_name" rfl,text "🏷 <b>Server name:</b> {value}" rfl),
  (text "caption_server" rfl,text "🖥 <b>Server:</b> {value}" rfl),
  (text "caption_database" rfl,text "💾 <b>Database:</b> {value}" rfl),
  (text "caption_path" rfl,text "📂 <b>Path (File / Directory):</b> {value}" rfl),
  (text "caption_skipped" rfl,text "⚠️ <b>Skipped:</b> {value}" rfl),
  (text "caption_skipped_symlink_one" rfl,text "{count} unsafe symlink" rfl),
  (text "caption_skipped_symlink_many" rfl,text "{count} unsafe symlinks" rfl),
  (text "caption_skipped_special_one" rfl,text "{count} special file" rfl),
  (text "caption_skipped_special_many" rfl,text "{count} special files" rfl),
  (text "caption_skipped_unreadable_one" rfl,text "{count} unreadable entry" rfl),
  (text "caption_skipped_unreadable_many" rfl,text "{count} unreadable entries" rfl),
  (text "caption_run_id" rfl,text "🆔 <b>Run ID:</b> {value}" rfl),
  (text "caption_original_size" rfl,text "📦 <b>Original Backup Size:</b> {value}" rfl),
  (text "caption_final_size" rfl,text "🗜 <b>Final Backup Size:</b> {value}" rfl),
  (text "caption_part" rfl,text "📄 <b>Part {number}/{total}</b>" rfl),
  (text "settings_text" rfl,
    text "⚙️ <b>Settings</b>\n\n<b>⚙️ Runtime</b>\nEnvironment: {environment} · Version: " rfl ++
      text "{version}\nPython: {python}\n\n<b>🗄 Database</b>\n{backend}: {database}\nSchema: " rfl ++
      text "{schema}\nMigration: {revision}\n\n<b>📡 Telegram</b>\nMTProto Bot / Worker: " rfl ++
      text "{telegram}\nUpload limit: {limit:,} bytes\n\n<b>🌐 Network</b>\nSOCKS5: {proxy} · " rfl ++
      text "{endpoint}\nConnection: {proxy_status}\n\n<b>🕒 Time</b>\nBackup timezone: {timezone}\nUTC: " rfl ++
      text "{utc}\n\n<b>💾 Storage</b>\n{storage} · Free: {disk:,} MiB\nPending: {pending_count} / " rfl ++
      text "{pending:,} MiB\n{directories}\n\n<b>🗂 Backups</b>\nProfiles: {profiles} · Active runs: " rfl ++
      text "{running}\nScheduler: {scheduler}\nFailed: {failed} · Retained artifacts: " rfl ++
      text "{retained}\n\n<b>🔐 Security</b>\nCredential encryption: {encryption}" rfl),
  (text "health_text" rfl,
    text "🩺 <b>System Health</b>\nOverall: {status}\n\n{live} Application\n{database} Database " rfl ++
      text "({backend})\n{schema} Schema / migrations\n{worker} Worker\n{scheduler} " rfl ++
      text "Scheduler\n{telegram} Telegram Bot / Worker\n{proxy} Proxy\n{helper} GitLab " rfl ++
      text "Helper\n{storage} Storage\n\n<b>💾 Storage</b>\nFree / used: {disk:,} / {used:,} " rfl ++
      text "MiB\nPending: {pending_count} / {pending:,} MiB\n\n<b>🗂 Operations</b>\nQueued / running / " rfl ++
      text "failed: {queued} / {running} / {failed}\nStale leases: {stale} · Retained artifacts: " rfl ++
      text "{retained}\nAvailable tools: {tools}\nMigration: {revision}\n\n<b>📂 Runtime " rfl ++
      text "directories</b>\n{directories}\n\n🕒 Checked: {checked}" rfl),
  (text "active" rfl,text "Active" rfl),
  (text "inactive" rfl,text "Inactive" rfl),
  (text "yes" rfl,text "Yes" rfl),
  (text "no" rfl,text "No" rfl),
  (text "schedule_interval_mode" rfl,text "🕒 Interval Schedule" rfl),
  (text "choose_schedule_mode" rfl,
    text "⏱ <b>Schedule Type</b>\nChoose Interval or Cron. Timezone: <code>{timezone}</code>.{current}" rfl),
  (text "current_schedule_mode" rfl,text "\n\n<b>Current mode:</b> {mode}\n{schedule}" rfl),
  (text "available_paths" rfl,text "📌 <b>Available paths</b>\n{paths}\nTap a path to copy it." rfl),
  (text "no_available_paths" rfl,
    text "No approved paths are currently verified as available by the worker." rfl),
  (text "invalid_cron" rfl,
    text "⚠️ <b>Invalid Cron Expression</b>\nSend a valid 5-field Linux cron expression, for example " rfl ++
      text "<code>30 3 * * *</code>." rfl),
  (text "health_healthy" rfl,text "🟢 Healthy" rfl),
  (text "health_warning" rfl,text "🟡 Warning" rfl),
  (text "health_error" rfl,text "🔴 Error" rfl),
  (text "health_disabled" rfl,text "⚪ Disabled / Not configured" rfl),
  (text "health_unverified" rfl,text "🟡 Not verified" rfl),
  (text "health_unavailable" rfl,
    text "🔴 <b>Health Unavailable</b>\nThe database health check failed. Check the service logs." rfl),
  (text "audit_entry" rfl,text "{icon} <b>{name}</b>\n🕒 {timestamp}\n{details}" rfl),
  (text "audit_target" rfl,text "Target: {kind} <code>{target}</code>" rfl),
  (text "audit_actor" rfl,text "Actor: <code>{actor}</code>" rfl),
  (text "audit_detail" rfl,text "{label}: {value}" rfl),
  (text "audit_unknown" rfl,text "Event {event}" rfl),
  (text "audit_event_application_startup" rfl,text "Application Started" rfl),
  (text "audit_event_proxy_mode" rfl,text "Proxy Mode" rfl),
  (text "audit_event_telegram_connection_state" rfl,text "Telegram Connection" rfl),
  (text "audit_event_backup_timezone_changed" rfl,text "Backup Timezone Changed" rfl),
  (text "audit_event_backup_created" rfl,text "Backup Created" rfl),
  (text "audit_event_backup_edited" rfl,text "Backup Updated" rfl)]

def englishSeventh : List (Text × Text) := [
  (text "audit_event_backup_deleted" rfl,text "Backup Deleted" rfl),
  (text "audit_event_backup_enabled" rfl,text "Backup Enabled" rfl),
  (text "audit_event_backup_disabled" rfl,text "Backup Disabled" rfl),
  (text "audit_event_admin_created" rfl,text "Administrator Created" rfl),
  (text "audit_event_admin_edited" rfl,text "Administrator Updated" rfl),
  (text "audit_event_admin_deleted" rfl,text "Administrator Deleted" rfl),
  (text "audit_event_admin_enabled" rfl,text "Administrator Enabled" rfl),
  (text "audit_event_admin_disabled" rfl,text "Administrator Disabled" rfl),
  (text "audit_event_remote_server_created" rfl,text "Remote Server Created" rfl),
  (text "audit_event_remote_server_edited" rfl,text "Remote Server Updated" rfl),
  (text "audit_event_remote_server_deleted" rfl,text "Remote Server Deleted" rfl),
  (text "audit_event_remote_server_enabled" rfl,text "Remote Server Enabled" rfl),
  (text "audit_event_remote_server_disabled" rfl,text "Remote Server Disabled" rfl),
  (text "audit_event_backup_draft_created" rfl,text "Backup Draft Created" rfl),
  (text "audit_event_backup_profile_configured" rfl,text "Backup Configured" rfl),
  (text "audit_event_backup_profile_configuration_updated" rfl,text "Backup Configuration Updated" rfl),
  (text "audit_event_backup_access_granted" rfl,text "Backup Access Granted" rfl),
  (text "audit_event_backup_access_revoked" rfl,text "Backup Access Revoked" rfl),
  (text "audit_event_language_changed" rfl,text "Language Changed" rfl),
  (text "audit_event_superadmin_bootstrap" rfl,text "Superadmin Initialized" rfl),
  (text "audit_event_superadmin_restored" rfl,text "Superadmin Restored" rfl),
  (text "audit_event_remote_server_trusted" rfl,text "Remote Server Trusted" rfl),
  (text "audit_event_remote_server_retrusted" rfl,text "Remote Server Trust Updated" rfl),
  (text "audit_event_remote_server_connection_tested" rfl,text "Remote Connection Tested" rfl),
  (text "audit_event_backup_run_queued" rfl,text "Backup Run Queued" rfl),
  (text "audit_event_backup_run_claimed" rfl,text "Backup Run Claimed" rfl),
  (text "audit_event_backup_run_started" rfl,text "Backup Run Started" rfl),
  (text "audit_event_backup_run_completed" rfl,text "Backup Run Completed" rfl),
  (text "audit_event_backup_run_failed" rfl,text "Backup Run Failed" rfl),
  (text "audit_event_backup_run_cancelled" rfl,text "Backup Run Cancelled" rfl),
  (text "audit_event_backup_run_cancel_requested" rfl,text "Backup Run Cancellation Requested" rfl),
  (text "audit_event_backup_run_retry_requested" rfl,text "Backup Run Retry Requested" rfl),
  (text "audit_event_backup_run_recovered" rfl,text "Backup Run Recovered" rfl),
  (text "audit_event_backup_run_delivery_pending" rfl,text "Backup Run Delivery Pending" rfl),
  (text "audit_event_backup_run_delivery_retried" rfl,text "Backup Run Delivery Retried" rfl),
  (text "audit_event_backup_run_artifact_purged" rfl,text "Backup Run Artifact Purged" rfl),
  (text "audit_label_connected" rfl,text "Connected" rfl),
  (text "audit_label_proxy_enabled" rfl,text "Proxy" rfl),
  (text "audit_label_socks5_enabled" rfl,text "SOCKS5" rfl),
  (text "audit_label_mode" rfl,text "Mode" rfl),
  (text "audit_label_status" rfl,text "Status" rfl),
  (text "audit_label_stage" rfl,text "Stage" rfl),
  (text "audit_label_error_code" rfl,text "Error code" rfl),
  (text "audit_label_admin_id" rfl,text "Admin ID" rfl),
  (text "audit_label_timezone" rfl,text "Timezone" rfl),
  (text "audit_label_backup" rfl,text "Backup" rfl),
  (text "audit_label_backup_run" rfl,text "Run" rfl),
  (text "audit_label_admin" rfl,text "Admin" rfl),
  (text "audit_label_user" rfl,text "User" rfl),
  (text "audit_label_remote_server" rfl,text "Remote server" rfl),
  (text "audit_label_system_settings" rfl,text "Settings" rfl),
  (text "health_idle" rfl,text "⚪ Idle (no scheduled profiles)" rfl),
  (text "audit_label_backup_timezone" rfl,text "Backup timezone" rfl),
  (text "audit_label_source_type" rfl,text "Source" rfl),
  (text "audit_label_schedule" rfl,text "Schedule" rfl),
  (text "audit_label_compression" rfl,text "Compression" rfl),
  (text "audit_label_encryption" rfl,text "Encryption" rfl),
  (text "audit_label_assigned_admin_count" rfl,text "Assigned admins" rfl),
  (text "audit_label_enabled" rfl,text "Enabled" rfl),
  (text "audit_label_database_credentials_changed" rfl,text "Database password changed" rfl)]

def englishEighth : List (Text × Text) := [
  (text "audit_label_age_unlock_changed" rfl,text "Age passphrase changed" rfl),
  (text "audit_event_backup_run_succeeded" rfl,text "Backup Run Succeeded" rfl),
  (text "audit_event_backup_run_retention_cleanup" rfl,text "Retained Artifact Cleanup" rfl),
  (text "audit_event_authorization_denied" rfl,text "Authorization Denied" rfl)]

/-- No key stands twice. -/
def english : List (Text × Text) :=
  englishFirst ++ englishSecond ++ englishThird ++ englishFourth ++ englishFifth ++ englishSixth ++ englishSeventh ++ englishEighth

end BackupTelebot.Messages
