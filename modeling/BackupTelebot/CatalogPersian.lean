import BackupTelebot.CatalogEnglish

/-! The Persian message catalog. -/
namespace BackupTelebot.Messages

open PyFormat

set_option maxRecDepth 20000

def persianFirst : List (Text × Text) := [
  (text "local_validation_unavailable" rfl,
    text "اعتبارسنجی مسیر محلی موقتاً در دسترس نیست. دوباره تلاش کنید." rfl),
  (text "backups" rfl,text "💾 بکاپ‌ها" rfl),
  (text "admins" rfl,text "👥 ادمین‌ها" rfl),
  (text "remote_servers" rfl,text "🖥 سرورهای ریموت" rfl),
  (text "add_server" rfl,text "➕ افزودن سرور" rfl),
  (text "edit_server" rfl,text "✏️ ویرایش سرور" rfl),
  (text "delete_server" rfl,text "🗑 حذف سرور" rfl),
  (text "refresh_servers" rfl,text "🔄 بروزرسانی" rfl),
  (text "test_connection" rfl,text "🔌 تست اتصال" rfl),
  (text "audit" rfl,text "🧾 گزارش فعالیت" rfl),
  (text "health" rfl,text "🩺 وضعیت سیستم" rfl),
  (text "settings" rfl,text "⚙️ تنظیمات" rfl),
  (text "language" rfl,text "🌐 زبان" rfl),
  (text "help" rfl,text "ℹ️ راهنما" rfl),
  (text "my_backups" rfl,text "📦 بکاپ‌های من" rfl),
  (text "back" rfl,text "⬅️ بازگشت" rfl),
  (text "home" rfl,text "🏠 خانه" rfl),
  (text "cancel" rfl,text "❌ لغو" rfl),
  (text "english" rfl,text "🇬🇧 English" rfl),
  (text "persian" rfl,text "🇮🇷 فارسی" rfl),
  (text "add_admin" rfl,text "➕ افزودن ادمین" rfl),
  (text "edit_admin" rfl,text "✏️ ویرایش ادمین" rfl),
  (text "delete_admin" rfl,text "🗑 حذف ادمین" rfl),
  (text "refresh_admins" rfl,text "📋 بروزرسانی ادمین‌ها" rfl),
  (text "add_backup" rfl,text "➕ افزودن بکاپ" rfl),
  (text "edit_backup" rfl,text "✏️ ویرایش بکاپ" rfl),
  (text "delete_backup" rfl,text "🗑 حذف بکاپ" rfl),
  (text "refresh_backups" rfl,text "📋 بروزرسانی بکاپ‌ها" rfl),
  (text "active_runs" rfl,text "⚙️ اجراهای فعال" rfl),
  (text "active_runs_footer" rfl,messageSection (text "🧭" rfl) (text "بکاپ‌های فعال" rfl)
    (some (text "از کنترل‌های بالا استفاده کنید یا به منوی بکاپ‌ها بازگردید." rfl))),
  (text "run_history" rfl,text "📜 تاریخچه اجراها" rfl),
  (text "run_details" rfl,text "🔎 جزئیات" rfl),
  (text "cancel_run" rfl,text "⛔ لغو اجرا" rfl),
  (text "retry_run" rfl,text "🔁 تلاش مجدد" rfl),
  (text "purge_artifact" rfl,text "🗑 پاک‌سازی فایل" rfl),
  (text "edit" rfl,text "✏️ ویرایش" rfl),
  (text "delete" rfl,text "🗑 حذف" rfl),
  (text "backup_access" rfl,text "📦 دسترسی بکاپ‌ها" rfl),
  (text "admin_access" rfl,text "👥 دسترسی ادمین‌ها" rfl),
  (text "change_name" rfl,text "✏️ تغییر نام" rfl),
  (text "change_telegram_id" rfl,text "🔢 تغییر Telegram ID" rfl),
  (text "change_language" rfl,text "🌐 تغییر زبان" rfl),
  (text "toggle_enabled" rfl,text "🔘 فعال / غیرفعال" rfl),
  (text "change_description" rfl,text "📝 تغییر توضیحات" rfl),
  (text "run_backup_now" rfl,text "▶️ اجرای بکاپ اکنون" rfl),
  (text "reconfigure_backup" rfl,text "🛠 ویرایش کامل تنظیمات" rfl),
  (text "save_access" rfl,text "✅ ذخیره دسترسی" rfl),
  (text "remove_all" rfl,text "🚫 حذف همه" rfl),
  (text "confirm_delete" rfl,text "✅ تأیید حذف" rfl),
  (text "confirm" rfl,text "✅ تأیید" rfl),
  (text "previous_page" rfl,text "◀️ قبلی" rfl),
  (text "next_page" rfl,text "بعدی ▶️" rfl),
  (text "welcome" rfl,messageSection (text "👋" rfl) (text "خوش آمدید" rfl)
    (some (text "بکاپ‌ها، اجراها، سرورها و دسترسی‌ها را از منوی زیر مدیریت کنید." rfl))),
  (text "cancelled" rfl,messageSection (text "❎" rfl) (text "عملیات لغو شد" rfl)
    (some (text "هیچ تغییری ذخیره نشد." rfl))),
  (text "returned" rfl,messageSection (text "🏠" rfl) (text "خانه" rfl)
    (some (text "یکی از گزینه‌های منوی زیر را انتخاب کنید." rfl))),
  (text "choose_menu" rfl,messageSection (text "🧭" rfl) (text "منوی اصلی" rfl)
    (some (text "یکی از گزینه‌های زیر را انتخاب کنید." rfl))),
  (text "invalid" rfl,messageSection (text "⚠️" rfl) (text "ورودی نامعتبر" rfl)
    (some (text "مقدار را بررسی و دوباره تلاش کنید." rfl))),
  (text "too_many_invalid" rfl,messageSection (text "⛔" rfl) (text "عملیات لغو شد" rfl)
    (some (text "تعداد تلاش‌های نامعتبر زیاد بود. عملیات را دوباره آغاز کنید." rfl))),
  (text "expired" rfl,messageSection (text "⌛" rfl) (text "نشست منقضی شد" rfl)
    (some (text "عملیات را دوباره آغاز کنید." rfl))),
  (text "no_choices" rfl,messageSection (text "ℹ️" rfl) (text "موردی برای انتخاب نیست" rfl)
    (some (text "در حال حاضر گزینه واجد شرایطی وجود ندارد." rfl)))]

def persianSecond : List (Text × Text) := [
  (text "language_prompt" rfl,messageSection (text "🌐" rfl) (text "زبان" rfl)
    (some (text "زبان دلخواه خود را انتخاب کنید." rfl))),
  (text "language_saved" rfl,messageSection (text "✅" rfl) (text "زبان بروزرسانی شد" rfl)
    (some (text "انتخاب شما ذخیره شد." rfl))),
  (text "admins_title" rfl,messageSection (text "👥" rfl) (text "دسترسی ادمین‌ها" rfl)
    (some (text "ادمین‌ها و دسترسی بکاپ آن‌ها را مدیریت کنید." rfl))),
  (text "no_admins" rfl,messageSection (text "👥" rfl) (text "ادمینی وجود ندارد" rfl)
    (some (text "هنوز حساب ادمینی ساخته نشده است." rfl))),
  (text "admin_card" rfl,
    text "👤 <b>جزئیات ادمین</b>\n━━━━━━━━━━━━━━\n📌 <b>نام:</b> <code>{name}</code>\n🆔 <b>شناسه " rfl ++
      text "تلگرام:</b> <code>{telegram_id}</code>\n📋 <b>وضعیت:</b> {status}\n🌐 <b>زبان:</b> " rfl ++
      text "{admin_language}\n━━━━━━━━━━━━━━\n📦 <b>بکاپ‌های مجاز:</b> {backups}\n━━━━━━━━━━━━━━" rfl),
  (text "enabled" rfl,text "🟢 فعال" rfl),
  (text "disabled" rfl,text "⚪ غیرفعال" rfl),
  (text "none" rfl,text "هیچ‌کدام" rfl),
  (text "language_en" rfl,text "انگلیسی" rfl),
  (text "language_fa" rfl,text "فارسی" rfl),
  (text "ask_admin_name" rfl,messageSection (text "👤" rfl) (text "نام ادمین" rfl)
    (some (text "نام نمایشی را وارد کنید." rfl))),
  (text "ask_telegram_id" rfl,messageSection (text "🆔" rfl) (text "شناسه تلگرام" rfl)
    (some (text "شناسه عددی کاربر تلگرام را وارد کنید." rfl))),
  (text "ask_admin_language" rfl,messageSection (text "🌐" rfl) (text "زبان ادمین" rfl)
    (some (text "زبان دلخواه ادمین را انتخاب کنید." rfl))),
  (text "admin_confirmation" rfl,
    text "👤 <b>تأیید ادمین</b>\nنام: <code>{name}</code>\nشناسه تلگرام: " rfl ++
      text "<code>{telegram_id}</code>\nزبان: {admin_language}\nاین ادمین ساخته شود؟" rfl),
  (text "admin_created_access" rfl,messageSection (text "✅" rfl) (text "ادمین ساخته شد" rfl)
    (some (text "اکنون دسترسی بکاپ را تعیین کنید." rfl))),
  (text "admin_saved" rfl,messageSection (text "✅" rfl) (text "ادمین ذخیره شد" rfl)
    (some (text "حساب و دسترسی‌های بکاپ بروزرسانی شدند." rfl))),
  (text "select_admin_edit" rfl,messageSection (text "✏️" rfl) (text "ویرایش ادمین" rfl)
    (some (text "یک ادمین را انتخاب کنید." rfl))),
  (text "select_admin_delete" rfl,messageSection (text "🗑" rfl) (text "حذف ادمین" rfl)
    (some (text "یک ادمین را انتخاب کنید." rfl))),
  (text "edit_admin_prompt" rfl,messageSection (text "✏️" rfl) (text "ویرایش ادمین" rfl)
    (some (text "بخش موردنظر را انتخاب کنید." rfl))),
  (text "ask_new_name" rfl,messageSection (text "👤" rfl) (text "نام جدید" rfl)
    (some (text "نام نمایشی جدید ادمین را وارد کنید." rfl))),
  (text "ask_new_telegram_id" rfl,messageSection (text "🆔" rfl) (text "شناسه تلگرام جدید" rfl)
    (some (text "شناسه عددی جدید را وارد کنید." rfl))),
  (text "admin_updated" rfl,messageSection (text "✅" rfl) (text "ادمین بروزرسانی شد" rfl)
    (some (text "مشخصات ادمین ذخیره شد." rfl))),
  (text "admin_status_changed" rfl,messageSection (text "✅" rfl) (text "وضعیت بروزرسانی شد" rfl)
    (some (text "وضعیت ادمین تغییر کرد." rfl))),
  (text "admin_delete_summary" rfl,
    text "⚠️ <b>ادمین حذف شود؟</b>\nادمین: <code>{name}</code>\nشناسه تلگرام: " rfl ++
      text "<code>{telegram_id}</code>\nوضعیت: {status}\nزبان: {admin_language}\nدسترسی‌ها لغو و حساب " rfl ++
      text "غیرفعال می‌شود." rfl),
  (text "admin_deleted" rfl,messageSection (text "✅" rfl) (text "ادمین حذف شد" rfl)
    (some (text "حساب غیرفعال و دسترسی‌ها لغو شدند." rfl))),
  (text "select_backup_access" rfl,messageSection (text "📦" rfl) (text "دسترسی بکاپ" rfl)
    (some (text "بکاپ‌های مجاز این ادمین را انتخاب کنید." rfl))),
  (text "access_saved" rfl,messageSection (text "✅" rfl) (text "دسترسی بروزرسانی شد" rfl)
    (some (text "تخصیص دسترسی‌ها ذخیره شد." rfl))),
  (text "no_active_operations" rfl,messageSection (text "✅" rfl) (text "بکاپ فعالی وجود ندارد" rfl)
    (some (text "در حال حاضر هیچ عملیات بکاپی در حال اجرا نیست." rfl))),
  (text "active_runs_overview" rfl,messageSection (text "⚙️" rfl) (text "بکاپ‌های فعال" rfl)
    (some (text "در حال حاضر {count} اجرا فعال است." rfl))),
  (text "active_runs_title" rfl,messageSection (text "⚙️" rfl) (text "اجراهای فعال بکاپ" rfl)
    (some (text "تعداد فعال: <code>{count}</code>" rfl))),
  (text "no_run_history" rfl,messageSection (text "📜" rfl) (text "تاریخچه‌ای وجود ندارد" rfl)
    (some (text "هنوز اجرای بکاپی ثبت نشده است." rfl))),
  (text "run_history_header" rfl,messageSection (text "📜" rfl) (text "تاریخچه اجراها" rfl)
    (some (text "صفحه {page} از {pages} · مجموع <code>{total}</code>" rfl))),
  (text "run_history_footer" rfl,messageSection (text "🧭" rfl) (text "تاریخچه اجراها" rfl)
    (some (text "با دکمه‌های زیر جابه‌جا شوید." rfl))),
  (text "size_unknown" rfl,text "نامشخص" rfl),
  (text "run_size_summary" rfl,
    text "📦 اندازه اصلی بکاپ: {original_size}\n🗜 اندازه نهایی بکاپ: {final_size}" rfl),
  (text "run_list_card" rfl,
    text "🔎 <b>اجرای شماره</b> <code>{run_id}</code> · <code>{profile}</code>\n━━━━━━━━━━━━━━\n📋 " rfl ++
      text "<b>وضعیت:</b> {status}\n⚙️ <b>مرحله:</b> {stage}\n🕒 <b>ایجاد:</b> " rfl ++
      text "{created}{size_summary}\n━━━━━━━━━━━━━━" rfl),
  (text "run_detail_card" rfl,
    text "🔎 <b>جزئیات اجرای بکاپ</b>\n━━━━━━━━━━━━━━\n🆔 <b>شناسه اجرا:</b> <code>{run_id}</code>\n📌 " rfl ++
      text "<b>پروفایل:</b> <code>{profile}</code>\n📋 <b>وضعیت:</b> {status}\n⚙️ <b>مرحله:</b> " rfl ++
      text "{stage}\n▶️ <b>نوع اجرا:</b> {trigger}\n{source_details}\n━━━━━━━━━━━━━━\n🕒 <b>ایجاد:</b> " rfl ++
      text "{created}\n📅 <b>زمان‌بندی:</b> {scheduled}\n🚀 <b>شروع:</b> {started}\n🏁 <b>پایان:</b> " rfl ++
      text "{finished}\n🌍 <b>منطقه زمانی:</b> {timezone}\n━━━━━━━━━━━━━━\n⚠️ <b>کد خطا:</b> " rfl ++
      text "<code>{error_code}</code>\n📝 <b>خطای امن:</b> {error_message}\n━━━━━━━━━━━━━━\n📦 <b>اندازه " rfl ++
      text "اصلی بکاپ:</b> {original_size}\n🗜 <b>اندازه نهایی بکاپ:</b> {final_size}\n📁 <b>فایل " rfl ++
      text "بکاپ:</b> {artifact}\n📨 <b>تحویل‌ها:</b> در انتظار: <code>{pending}</code> · موفق: " rfl ++
      text "<code>{succeeded}</code>\nناموفق: <code>{failed}</code> · ردشده: " rfl ++
      text "<code>{skipped}</code>\n━━━━━━━━━━━━━━" rfl),
  (text "run_cancel_requested" rfl,messageSection (text "⛔" rfl) (text "درخواست لغو ثبت شد" rfl)
    (some (text "اجرای شماره <code>{run_id}</code> به‌شکل ایمن متوقف می‌شود." rfl))),
  (text "run_delivery_retry_requested" rfl,
    text "🔁 <b>تلاش مجدد تحویل در صف است</b>\nتحویل‌های ناموفق اجرای شماره <code>{run_id}</code> دوباره " rfl ++
      text "انجام می‌شوند." rfl),
  (text "run_retry_queued" rfl,messageSection (text "✅" rfl) (text "تلاش مجدد در صف است" rfl)
    (some (text "اجرای جدید: <code>{run_id}</code>" rfl))),
  (text "run_artifact_purge_complete" rfl,
    text "✅ <b>فایل پاک شد</b>\nفایل نگهداری‌شده اجرای شماره <code>{run_id}</code> حذف شد." rfl),
  (text "run_artifact_purge_confirm" rfl,
    text "⚠️ <b>فایل نگهداری‌شده پاک شود؟</b>\nفایل تأییدشده اجرای شماره <code>{run_id}</code> برای " rfl ++
      text "همیشه حذف شود؟ تاریخچه پایگاه داده حفظ می‌شود." rfl),
  (text "run_action_unavailable" rfl,messageSection (text "⚠️" rfl) (text "عملیات در دسترس نیست" rfl)
    (some (text "این اقدام دیگر قابل انجام یا ایمن نیست." rfl))),
  (text "run_artifact_retained" rfl,text "نگهداری‌شده ({size:,} بایت)" rfl),
  (text "run_artifact_purged" rfl,text "پاک‌شده؛ تاریخچه پایگاه داده حفظ شده است" rfl),
  (text "run_artifact_delivered" rfl,text "تحویل کامل ({size:,} بایت)" rfl),
  (text "run_error_cancelled" rfl,text "اجرا توسط اپراتور لغو شد." rfl),
  (text "run_error_timeout" rfl,text "مهلت تنظیم‌شده بکاپ به پایان رسید." rfl),
  (text "run_error_delivery_action_required" rfl,
    text "تحویل خودکار متوقف شده و به اقدام اپراتور نیاز دارد." rfl),
  (text "run_error_upload_limit" rfl,text "اندازه فایل از سقف تنظیم‌شده آپلود بیشتر است." rfl),
  (text "run_error_artifact_invalid" rfl,text "فایل نگهداری‌شده موجود نیست یا تأیید نشد." rfl),
  (text "run_error_generic" rfl,text "اجرا ناموفق بود؛ جزئیات فقط در گزارش‌های محافظت‌شده موجود است." rfl),
  (text "run_trigger_manual" rfl,text "دستی" rfl),
  (text "run_trigger_scheduled" rfl,text "زمان‌بندی‌شده" rfl),
  (text "run_status_queued" rfl,text "🟡 در صف" rfl),
  (text "run_status_running" rfl,text "🟡 در حال اجرا" rfl),
  (text "run_status_delivery_pending" rfl,text "🟡 در انتظار تحویل" rfl),
  (text "run_status_succeeded" rfl,text "🟢 موفق" rfl),
  (text "run_status_failed" rfl,text "🔴 ناموفق" rfl),
  (text "run_status_cancelled" rfl,text "⚪ لغوشده" rfl)]

def persianThird : List (Text × Text) := [
  (text "run_status_skipped" rfl,text "⚪ ردشده" rfl),
  (text "run_stage_queued" rfl,text "در صف" rfl),
  (text "run_stage_backup" rfl,text "تهیه بکاپ" rfl),
  (text "run_stage_verify_source" rfl,text "بررسی منبع" rfl),
  (text "run_stage_compress" rfl,text "فشرده‌سازی" rfl),
  (text "run_stage_encrypt" rfl,text "رمزگذاری" rfl),
  (text "run_stage_checksum" rfl,text "محاسبه چک‌سام" rfl),
  (text "run_stage_finalize" rfl,text "نهایی‌سازی" rfl),
  (text "run_stage_pending_delivery" rfl,text "در انتظار تحویل" rfl),
  (text "run_stage_telegram_delivery" rfl,text "تحویل تلگرام" rfl),
  (text "run_stage_cleanup" rfl,text "پاک‌سازی" rfl),
  (text "run_stage_complete" rfl,text "کامل" rfl),
  (text "no_backups" rfl,messageSection (text "📦" rfl) (text "پروفایل بکاپی وجود ندارد" rfl)
    (some (text "هنوز پروفایل بکاپی ساخته نشده است." rfl))),
  (text "backups_title" rfl,messageSection (text "📦" rfl) (text "پروفایل‌های بکاپ" rfl)
    (some (text "پروفایل‌ها، اجراها و دسترسی‌ها را مدیریت کنید." rfl))),
  (text "backup_card" rfl,
    text "📦 <b>پروفایل بکاپ</b>\n━━━━━━━━━━━━━━\n📌 <b>نام:</b> <code>{name}</code>\n📁 <b>منبع:</b> " rfl ++
      text "{source}\n🖥 <b>سرور ریموت:</b> <code>{server}</code>\n⏰ <b>زمان‌بندی:</b> " rfl ++
      text "{schedule}{next_run}\n🌍 <b>منطقه زمانی:</b> " rfl ++
      text "{timezone}\n{source_details}\n\n{archive_compression}\n\n━━━━━━━━━━━━━━\n🔐 <b>رمزگذاری:</b> " rfl ++
      text "{encryption}\n📋 <b>وضعیت پروفایل:</b> {status}\n✅ <b>فعال:</b> {enabled}\n━━━━━━━━━━━━━━\n👥 " rfl ++
      text "<b>دسترسی:</b> {admins}\n━━━━━━━━━━━━━━" rfl),
  (text "ask_backup_name" rfl,text "📦 <b>نام بکاپ</b>\nنامی برای این پروفایل بکاپ وارد کنید." rfl),
  (text "ask_edit_backup_name" rfl,
    text "📦 <b>نام بکاپ</b>\nنام جدید را وارد کنید یا برای حفظ «{current}» <code>-</code> بفرستید." rfl),
  (text "ask_edit_description" rfl,
    text "📝 <b>توضیحات</b>\nتوضیحات جدید را وارد کنید؛ برای حفظ <code>-</code> و برای پاک‌کردن " rfl ++
      text "<code>!</code> بفرستید." rfl),
  (text "ask_edit_database_password" rfl,messageSection (text "🔐" rfl) (text "گذرواژه پایگاه داده" rfl)
    (some (text "مقدار جدید را وارد کنید یا برای حفظ فعلی <code>-</code> بفرستید." rfl))),
  (text "ask_edit_age_passphrase" rfl,messageSection (text "🔐" rfl) (text "گذرواژه Age" rfl)
    (some (text "مقدار جدید را وارد کنید یا برای حفظ فعلی <code>-</code> بفرستید." rfl))),
  (text "edit_keep_hint" rfl,messageSection (text "ℹ️" rfl) (text "ویرایش" rfl)
    (some (text "برای حفظ مقدار غیرمحرمانه فعلی <code>-</code> بفرستید." rfl))),
  (text "ask_description" rfl,
    text "📝 <b>توضیحات</b>\nتوضیحات را وارد کنید یا برای خالی گذاشتن <code>-</code> بفرستید." rfl),
  (text "choose_source" rfl,text "🧩 <b>نوع منبع</b>\nآنچه باید پشتیبان‌گیری شود انتخاب کنید." rfl),
  (text "source_database" rfl,text "🗄 پایگاه داده" rfl),
  (text "source_files_directories" rfl,text "📁 فایل‌ها و پوشه‌ها" rfl),
  (text "source_gitlab" rfl,text "🦊 GitLab" rfl),
  (text "database_postgresql" rfl,text "PostgreSQL" rfl),
  (text "database_mysql" rfl,text "MySQL / MariaDB" rfl),
  (text "database_mssql" rfl,text "Microsoft SQL Server" rfl),
  (text "tls_disabled" rfl,text "TLS غیرفعال" rfl),
  (text "tls_preferred" rfl,text "TLS ترجیحی" rfl),
  (text "tls_required" rfl,text "TLS الزامی" rfl),
  (text "tls_verify_ca" rfl,text "TLS با تأیید CA" rfl),
  (text "tls_verify_full" rfl,text "TLS با تأیید کامل" rfl),
  (text "location_local" rfl,text "محلی" rfl),
  (text "location_remote" rfl,text "سرور ریموت" rfl),
  (text "schedule_manual" rfl,text "فقط دستی" rfl),
  (text "schedule_once" rfl,text "یک‌بار" rfl),
  (text "schedule_minutes" rfl,text "هر N دقیقه" rfl),
  (text "schedule_hours" rfl,text "هر N ساعت" rfl),
  (text "schedule_days" rfl,text "هر N روز" rfl),
  (text "schedule_minutes_value" rfl,text "هر {value} دقیقه" rfl),
  (text "schedule_hours_value" rfl,text "هر {value} ساعت" rfl),
  (text "schedule_days_value" rfl,text "هر {value} روز" rfl),
  (text "schedule_daily_value" rfl,text "روزانه ساعت {value}" rfl),
  (text "schedule_weekly_value" rfl,text "هفتگی، روز {day} ساعت {time}" rfl),
  (text "schedule_monthly_value" rfl,text "ماهانه، روز {day} ساعت {time}" rfl),
  (text "schedule_cron_value" rfl,text "کرون: {value}" rfl),
  (text "schedule_daily" rfl,text "روزانه" rfl),
  (text "schedule_weekly" rfl,text "هفتگی" rfl),
  (text "schedule_monthly" rfl,text "ماهانه" rfl),
  (text "schedule_cron" rfl,text "📅 زمان‌بندی کرون" rfl),
  (text "compression_none" rfl,text "◻️ بدون فشرده‌سازی" rfl),
  (text "archive_tar" rfl,text "📦 TAR ✓" rfl),
  (text "archive_zip" rfl,text "📦 ZIP" rfl),
  (text "archive_7z" rfl,text "📦 7-Zip" rfl),
  (text "archive_tar_name" rfl,text "TAR" rfl),
  (text "archive_zip_name" rfl,text "ZIP" rfl),
  (text "archive_7z_name" rfl,text "7-Zip" rfl),
  (text "compression_zstandard" rfl,text "🚀 Zstandard ✓" rfl)]

def persianFourth : List (Text × Text) := [
  (text "compression_gzip" rfl,text "🌐 Gzip" rfl),
  (text "compression_xz" rfl,text "💾 XZ" rfl),
  (text "compression_lz4" rfl,text "⚡ LZ4" rfl),
  (text "compression_bzip2" rfl,text "📚 Bzip2" rfl),
  (text "compression_zip" rfl,text "ZIP" rfl),
  (text "compression_7z" rfl,text "7z" rfl),
  (text "compression_zstandard_name" rfl,text "Zstandard" rfl),
  (text "compression_gzip_name" rfl,text "Gzip" rfl),
  (text "compression_xz_name" rfl,text "XZ (LZMA2)" rfl),
  (text "compression_bzip2_name" rfl,text "Bzip2 (قدیمی)" rfl),
  (text "compression_lz4_name" rfl,text "LZ4" rfl),
  (text "compression_deflate_name" rfl,text "Deflate (داخلی ZIP)" rfl),
  (text "compression_lzma2_name" rfl,text "LZMA2 (داخلی 7-Zip)" rfl),
  (text "preset_fast" rfl,text "⚡ سریع" rfl),
  (text "preset_balanced" rfl,text "⚖️ متعادل ✓" rfl),
  (text "preset_high" rfl,text "زیاد" rfl),
  (text "preset_maximum" rfl,text "📦 حداکثر فشرده‌سازی" rfl),
  (text "preset_fast_display" rfl,text "سریع" rfl),
  (text "preset_balanced_display" rfl,text "متعادل" rfl),
  (text "preset_high_display" rfl,text "حداکثر فشرده‌سازی" rfl),
  (text "preset_maximum_display" rfl,text "حداکثر فشرده‌سازی" rfl),
  (text "preset_not_applicable" rfl,text "قابل اعمال نیست" rfl),
  (text "encryption_none" rfl,text "بدون رمزگذاری" rfl),
  (text "encryption_age_public" rfl,text "کلید عمومی Age — پیشنهادی" rfl),
  (text "encryption_age_passphrase" rfl,text "گذرواژه Age" rfl),
  (text "ask_server_name" rfl,messageSection (text "🖥" rfl) (text "نام سرور" rfl)
    (some (text "نامی یکتا برای سرور وارد کنید." rfl))),
  (text "ask_server_host" rfl,messageSection (text "🌐" rfl) (text "نشانی سرور" rfl)
    (some (text "نام میزبان یا نشانی IP را وارد کنید." rfl))),
  (text "ask_server_port" rfl,messageSection (text "🔌" rfl) (text "پورت SSH" rfl)
    (some (text "شماره پورت SSH را وارد کنید." rfl))),
  (text "ask_server_username" rfl,messageSection (text "👤" rfl) (text "نام کاربری SSH" rfl)
    (some (text "نام حساب SSH را وارد کنید." rfl))),
  (text "ask_server_private_key" rfl,
    text "🔐 <b>کلید خصوصی SSH</b>\nکلید را ارسال کنید؛ رمزگذاری می‌شود و دیگر نمایش داده نمی‌شود." rfl),
  (text "ask_server_passphrase" rfl,messageSection (text "🔑" rfl) (text "گذرواژه کلید" rfl)
    (some (text "گذرواژه را وارد کنید یا اگر ندارد <code>-</code> بفرستید." rfl))),
  (text "ask_server_name_edit" rfl,messageSection (text "🖥" rfl) (text "نام سرور" rfl)
    (some (text "نام جایگزین را وارد کنید." rfl))),
  (text "server_fingerprint_confirm" rfl,
    text "🛡 <b>اعتماد به کلید میزبان SSH؟</b>\nاتصال موفق بود. این اثرانگشت را بررسی و تأیید " rfl ++
      text "کنید:\n<code>{fingerprint}</code>" rfl),
  (text "server_saved" rfl,messageSection (text "✅" rfl) (text "سرور ذخیره شد" rfl)
    (some (text "بررسی کلید میزبان SSH ثابت شد." rfl))),
  (text "server_updated" rfl,messageSection (text "✅" rfl) (text "سرور بروزرسانی شد" rfl)
    (some (text "کلید میزبان جدید تأیید و ثابت شد." rfl))),
  (text "edit_server_prompt" rfl,messageSection (text "✏️" rfl) (text "ویرایش سرور ریموت" rfl)
    (some (text "بخش موردنظر را انتخاب کنید." rfl))),
  (text "reconfigure_server" rfl,text "🔐 جایگزینی اطلاعات اتصال" rfl),
  (text "server_status_changed" rfl,messageSection (text "✅" rfl) (text "وضعیت بروزرسانی شد" rfl)
    (some (text "وضعیت سرور ریموت تغییر کرد." rfl))),
  (text "server_deleted" rfl,messageSection (text "✅" rfl) (text "سرور حذف شد" rfl)
    (some (text "سرور ریموت حذف شد." rfl))),
  (text "server_delete_prompt" rfl,messageSection (text "⚠️" rfl) (text "سرور ریموت حذف شود؟" rfl)
    (some (text "سرور زیر را بررسی و سپس حذف همیشگی را تأیید کنید." rfl))),
  (text "server_test_ok" rfl,messageSection (text "✅" rfl) (text "اتصال تأیید شد" rfl)
    (some (text "اتصال SSH برقرار و کلید میزبان منطبق است." rfl))),
  (text "servers_title" rfl,messageSection (text "🖥" rfl) (text "سرورهای ریموت" rfl)
    (some (text "سرورهای مورد اعتماد منبع بکاپ را مدیریت کنید." rfl))),
  (text "no_servers" rfl,messageSection (text "🖥" rfl) (text "سرور ریموتی وجود ندارد" rfl)
    (some (text "هنوز سرور ریموتی اضافه نشده است." rfl))),
  (text "server_card" rfl,
    text "🖥 <b>جزئیات سرور ریموت</b>\n━━━━━━━━━━━━━━\n📌 <b>نام سرور:</b> <code>{name}</code>\n🌐 " rfl ++
      text "<b>نشانی:</b> <code>{host}:{port}</code>\n👤 <b>کاربر:</b> <code>{username}</code>\n🔐 " rfl ++
      text "<b>احراز هویت:</b> {authentication}\n🛡 <b>اثرانگشت:</b> <code>{fingerprint}</code>\n📋 " rfl ++
      text "<b>وضعیت:</b> {status}\n━━━━━━━━━━━━━━" rfl),
  (text "ssh_private_key" rfl,text "کلید خصوصی SSH" rfl),
  (text "choose_database_engine" rfl,messageSection (text "🗄" rfl) (text "موتور پایگاه داده" rfl)
    (some (text "یک نوع پایگاه داده انتخاب کنید." rfl))),
  (text "choose_tls" rfl,messageSection (text "🛡" rfl) (text "TLS پایگاه داده" rfl)
    (some (text "حالت بررسی TLS/SSL را انتخاب کنید." rfl))),
  (text "ask_tls_ca" rfl,messageSection (text "📜" rfl) (text "مرجع CA مورد اعتماد" rfl)
    (some (text "گواهی CA را با قالب PEM ارسال کنید." rfl))),
  (text "ask_database_host" rfl,messageSection (text "🌐" rfl) (text "میزبان پایگاه داده" rfl)
    (some (text "نام میزبان یا نشانی IP را وارد کنید." rfl))),
  (text "ask_database_port" rfl,messageSection (text "🔌" rfl) (text "پورت پایگاه داده" rfl)
    (some (text "شماره پورت را وارد کنید." rfl))),
  (text "ask_database_name" rfl,messageSection (text "🗄" rfl) (text "نام پایگاه داده" rfl)
    (some (text "نام دقیق یک پایگاه داده را وارد کنید." rfl))),
  (text "ask_database_username" rfl,messageSection (text "👤" rfl) (text "نام کاربری پایگاه داده" rfl)
    (some (text "نام حساب بکاپ را وارد کنید." rfl))),
  (text "ask_database_password" rfl,messageSection (text "🔐" rfl) (text "گذرواژه پایگاه داده" rfl)
    (some (text "گذرواژه را وارد کنید؛ دیگر نمایش داده نمی‌شود." rfl))),
  (text "ask_mssql_docker" rfl,messageSection (text "🐳" rfl) (text "محیط SQL Server" rfl)
    (some (text "آیا SQL Server در Docker اجرا می‌شود؟" rfl))),
  (text "ask_mssql_backup_path" rfl,messageSection (text "📂" rfl) (text "مسیر بکاپ SQL Server" rfl)
    (some (text "مسیر مقصد داخل SQL Server یا کانتینر آن را وارد کنید." rfl))),
  (text "ask_mssql_host_path" rfl,messageSection (text "📂" rfl) (text "مسیر میزبان ریموت" rfl)
    (some (text "مسیر mount متناظر روی میزبان ریموت را وارد کنید." rfl))),
  (text "choose_location" rfl,messageSection (text "📍" rfl) (text "مکان منبع" rfl)
    (some (text "محل فایل‌ها یا پوشه‌ها را انتخاب کنید." rfl))),
  (text "ask_paths" rfl,messageSection (text "📂" rfl) (text "فایل‌ها و پوشه‌ها" rfl)
    (some (text "مسیرهای مطلق را هرکدام در یک خط وارد کنید." rfl))),
  (text "choose_gitlab_location" rfl,text "📍 <b>مکان گیت‌لب</b>\nاین نمونه گیت‌لب کجا اجرا می‌شود؟" rfl),
  (text "ask_gitlab_container" rfl,text "🐳 <b>کانتینر گیت‌لب</b>\nنام کانتینر Docker را وارد کنید." rfl)]

def persianFifth : List (Text × Text) := [
  (text "ask_gitlab_remote_path" rfl,
    text "📂 <b>پوشه بکاپ گیت‌لب</b>\nمسیر پوشه روی سرور ریموت را وارد کنید." rfl),
  (text "no_remote_servers_available" rfl,
    text "⚠️ <b>سرور ریموتی در دسترس نیست</b>\nهنوز هیچ سرور ریموت فعالی ندارید.\nابتدا یک سرور ریموت " rfl ++
      text "اضافه کنید یا میزبان محلی را انتخاب کنید." rfl),
  (text "gitlab_path_information" rfl,
    text "📁 <b>پوشهٔ بکاپ GitLab</b>\nمسیر اصلی تنظیم‌شده در هلپر:\n{native_path}\nمسیر آماده‌سازی " rfl ++
      text "تأییدشده و مشترک با ورکر:\n{staging_path}\nاپراتور مسیر میزبان را با " rfl ++
      text "GITLAB_BACKUP_HOST_PATH تنظیم می‌کند. نیازی به ورود مسیر نیست. فقط هلپر به پوشهٔ اصلی " rfl ++
      text "دسترسی دارد." rfl),
  (text "gitlab_paths_unconfigured" rfl,
    text "📁 <b>پوشهٔ بکاپ GitLab</b>\nپوشهٔ اصلی تحت کنترل هلپر است؛ نیازی به ورود مسیر نیست. اطلاعات " rfl ++
      text "مسیر هلپر در این استقرار در دسترس نیست. پیش از استفاده از GitLab محلی، GITLAB_BACKUP_ROOT " rfl ++
      text "را مطابق هلپر تنظیم کنید." rfl),
  (text "gitlab_exclusive_warning" rfl,
    text "🛡 <b>دریافت تأییدشده بکاپ بومی</b>\nابزار محلی فقط همان فایل بومی را پس از تأیید اندازه و " rfl ++
      text "SHA-256 نسخه مرحله‌بندی‌شده حذف می‌کند.\nبرای بازیابی کامل، <code>gitlab.rb</code> و " rfl ++
      text "<code>gitlab-secrets.json</code> را جداگانه بکاپ بگیرید." rfl),
  (text "gitlab_source_details_local" rfl,
    text "\n🦊 <b>منبع گیت‌لب</b>\n📍 <b>مکان:</b> {location}\n<b>کانتینر:</b> {container}" rfl),
  (text "gitlab_source_details_remote" rfl,
    text "\n🦊 <b>منبع گیت‌لب</b>\n📍 <b>مکان:</b> {location}\n<b>کانتینر:</b> {container}\n<b>مسیر " rfl ++
      text "پشتیبان:</b> {backup_path}" rfl),
  (text "choose_schedule" rfl,messageSection (text "⏰" rfl) (text "زمان‌بندی بکاپ" rfl)
    (some (text "زمان‌بندی را انتخاب کنید. زمان‌ها بر اساس <code>{timezone}</code> هستند." rfl))),
  (text "ask_schedule_interval" rfl,messageSection (text "🔁" rfl) (text "فاصله اجرا" rfl)
    (some (text "یک عدد صحیح مثبت وارد کنید." rfl))),
  (text "ask_schedule_daily" rfl,messageSection (text "🕒" rfl) (text "زمان روزانه" rfl)
    (some (text "زمان را به‌شکل <code>HH:MM</code> وارد کنید." rfl))),
  (text "ask_schedule_weekly" rfl,messageSection (text "📅" rfl) (text "زمان‌بندی هفتگی" rfl)
    (some (text "روز و زمان را به‌شکل <code>0 HH:MM</code> وارد کنید (۰=دوشنبه، ۶=یکشنبه)." rfl))),
  (text "ask_schedule_monthly" rfl,messageSection (text "📅" rfl) (text "زمان‌بندی ماهانه" rfl)
    (some (text "روز و زمان را به‌شکل <code>1 HH:MM</code> وارد کنید (روز ۱ تا ۲۸)." rfl))),
  (text "ask_schedule_cron" rfl,
    text "📅 <b>زمان‌بندی کرون</b>\nمنطقهٔ زمانی: <code>{timezone}</code>.\nاز قالب ۵ فیلدی کرون لینوکس " rfl ++
      text "در منطقهٔ زمانی پشتیبان‌گیری استفاده کنید:\n<code>minute hour day-of-month month " rfl ++
      text "day-of-week</code>\nدقیقه، ساعت، روز ماه، ماه، روز هفته\n\n<code>30 3 * * *</code> ← هر روز " rfl ++
      text "ساعت ۰۳:۳۰\n<code>10 * * * *</code> ← هر ساعت در دقیقهٔ ۱۰\n<code>0 2 1 * *</code> ← روز " rfl ++
      text "اول هر ماه ساعت ۰۲:۰۰\n\nعبارت کرون خود را بفرستید." rfl),
  (text "choose_remote_server" rfl,text "🌐 <b>سرور ریموت</b>\nسرور میزبان این منبع را انتخاب کنید." rfl),
  (text "choose_assigned_admins" rfl,messageSection (text "👥" rfl) (text "دسترسی ادمین‌ها" rfl)
    (some (text "ادمین‌ها را انتخاب و سپس ذخیره دسترسی را بزنید." rfl))),
  (text "archive_explanation" rfl,
    text "📦 <b>قالب آرشیو</b>\nآرشیو چند فایل را در یک بسته گروه‌بندی می‌کند و الزاماً حجم را کم " rfl ++
      text "نمی‌کند؛ فشرده‌سازی جداگانه انتخاب می‌شود.\n\n━━━━━━━━━━━━━━\n🗃 TAR (پیشنهادی)\n• پسوند: " rfl ++
      text ".tar\n• حفظ متادیتای Unix\n• سازگاری: عالی در لینوکس و macOS و گسترده در سایر سیستم‌ها\n• " rfl ++
      text "مناسب برای: سرورها و درخت فایل\n\n━━━━━━━━━━━━━━\n🗃 ZIP\n• پسوند: .zip\n• قالب " rfl ++
      text "میان‌پلتفرمی\n• سازگاری: داخلی در ویندوز، macOS و میزکارهای لینوکس\n• مناسب برای: اشتراک " rfl ++
      text "آسان\n\n━━━━━━━━━━━━━━\n🗃 7Z\n• پسوند: .7z\n• قالب مدرن و انعطاف‌پذیر\n• سازگاری: در بسیاری " rfl ++
      text "از سیستم‌ها به 7-Zip یا ابزار سازگار نیاز دارد\n• مناسب برای: محیط‌های دارای ابزار تخصصی" rfl),
  (text "compression_explanation" rfl,
    text "🗜 <b>فشرده‌سازی</b>\nفشرده‌سازی حجم آرشیو را کم می‌کند و مستقل از قالب آرشیو است. نسبت بیشتر " rfl ++
      text "معمولاً زمان و پردازنده بیشتری می‌خواهد.\n\n━━━━━━━━━━━━━━\n◻️ بدون فشرده‌سازی · بدون پسوند " rfl ++
      text "· سریع‌ترین · پردازنده ناچیز\n🚀 Zstandard · .zst · نسبت زیاد · سریع · پردازنده متوسط\n🌐 " rfl ++
      text "gzip · .gz · نسبت متوسط · سرعت متوسط · پردازنده متوسط\n📚 bzip2 · .bz2 · نسبت زیاد · کند · " rfl ++
      text "پردازنده زیاد\n💾 XZ (LZMA2) · .xz · نسبت بسیار زیاد · بسیار کند · پردازنده زیاد\n⚡ LZ4 · " rfl ++
      text ".lz4 · نسبت کم · بسیار سریع · پردازنده کم" rfl),
  (text "compression_lz4_unavailable" rfl,
    text "⚡ LZ4 در ورکر فعلی در دسترس نیست. الگوریتم دیگری انتخاب کنید؛ تنظیمات بکاپ تغییر نکرده است." rfl),
  (text "choose_compression_preset" rfl,
    text "🗜 <b>پیش‌تنظیم فشرده‌سازی</b>\nتعادل سرعت و حجم را انتخاب کنید. حالت متعادل پیشنهاد می‌شود." rfl),
  (text "choose_encryption" rfl,messageSection (text "🔐" rfl) (text "رمزگذاری" rfl)
    (some (text "روش حفاظت از بکاپ نهایی را انتخاب کنید." rfl))),
  (text "ask_age_recipients" rfl,messageSection (text "🔑" rfl) (text "گیرندگان Age" rfl)
    (some (text "کلیدهای عمومی را هرکدام در یک خط وارد کنید." rfl))),
  (text "ask_age_passphrase" rfl,
    text "🔐 <b>گذرواژه Age</b>\nگذرواژه را وارد کنید؛ رمزگذاری می‌شود و دیگر نمایش داده نمی‌شود." rfl),
  (text "profile_confirmation" rfl,
    text "📋 <b>تأیید پروفایل بکاپ</b>\n━━━━━━━━━━━━━━\n📌 <b>نام:</b> <code>{name}</code>\n📁 " rfl ++
      text "<b>منبع:</b> {source}\n🖥 <b>سرور ریموت:</b> <code>{server}</code>\n⏰ <b>زمان‌بندی:</b> " rfl ++
      text "{schedule}\n🌍 <b>منطقه زمانی:</b> " rfl ++
      text "{timezone}\n{source_details}\n\n{archive_compression}\n\n━━━━━━━━━━━━━━\n🔐 <b>رمزگذاری:</b> " rfl ++
      text "{encryption}\n📋 <b>وضعیت پروفایل:</b> {status}\n✅ <b>فعال:</b> {enabled}\n━━━━━━━━━━━━━━\n👥 " rfl ++
      text "<b>دسترسی:</b> {admins}\n━━━━━━━━━━━━━━\nهیچ مقدار محرمانه‌ای نمایش داده نشده است." rfl),
  (text "compression_summary" rfl,
    text "<b>الگوریتم:</b> {algorithm}\n<b>پیش‌تنظیم:</b> {preset}\n<b>پسوند:</b> " rfl ++
      text "<code>{extension}</code>" rfl),
  (text "archive_summary" rfl,
    text "<b>قالب:</b> {archive}\n<b>پسوند:</b> <code>{extension}</code>\n<b>خروجی:</b> " rfl ++
      text "<code>{output}</code>" rfl),
  (text "archive_compression_sections" rfl,
    text "━━━━━━━━━━━━━━\n🗜 <b>فشرده‌سازی</b>\n{compression}\n\n━━━━━━━━━━━━━━\n📦 " rfl ++
      text "<b>آرشیو</b>\n{archive}" rfl),
  (text "file_directory_path" rfl,text "📂 <b>مسیر (فایل / پوشه):</b> <code>{path}</code>" rfl),
  (text "file_source_details" rfl,text "📍 <b>مکان:</b> {location}\n{paths}" rfl),
  (text "database_source_details" rfl,text "⚙️ <b>موتور:</b> {engine}" rfl),
  (text "run_source_details" rfl,text "📁 <b>منبع:</b> {source}\n{details}" rfl),
  (text "source_location_local" rfl,text "میزبان محلی" rfl),
  (text "source_location_remote" rfl,text "سرور ریموت" rfl),
  (text "backup_timezone" rfl,text "🕓 منطقه زمانی بکاپ" rfl),
  (text "timezone_heading" rfl,text "🕒 منطقه زمانی بکاپ" rfl),
  (text "ask_backup_timezone" rfl,messageSection (text "🕓" rfl) (text "منطقه زمانی بکاپ" rfl)
    (some (text "منطقه زمانی IANA را وارد کنید؛ برای نمونه <code>Asia/Tehran</code>." rfl))),
  (text "status_draft" rfl,text "🟡 پیش‌نویس" rfl),
  (text "status_archived" rfl,text "⚪ آرشیوشده" rfl),
  (text "backup_created" rfl,messageSection (text "✅" rfl) (text "پروفایل بکاپ ذخیره شد" rfl)
    (some (text "پیش‌نویس <code>{name}</code> ساخته شد." rfl))),
  (text "backup_setup_expired" rfl,
    text "⌛ <b>راه‌اندازی منقضی شد</b>\nاین نشست پایان یافت؛ ساخت پروفایل را دوباره آغاز کنید." rfl),
  (text "backup_confirm_missing" rfl,
    text "⚠️ <b>پروفایل ناقص است</b>\nفیلد <code>{field}</code> تکمیل نشده؛ به آن مرحله بازگردید." rfl),
  (text "backup_confirm_invalid_state" rfl,
    text "⚠️ <b>تأیید هماهنگ نیست</b>\nاین تأیید با مرحله فعلی هماهنگ نیست؛ پروفایل را دوباره بررسی " rfl ++
      text "کنید." rfl),
  (text "backup_confirm_stale" rfl,
    text "⚠️ <b>تأیید قدیمی است</b>\nاز دکمه جدیدترین پیام تأیید استفاده کنید." rfl),
  (text "backup_confirm_unavailable" rfl,
    text "⚠️ <b>ذخیره در دسترس نیست</b>\nذخیره‌سازی امن پیکربندی نشده؛ با اپراتور تماس بگیرید." rfl),
  (text "backup_confirm_validation_failed" rfl,
    text "⚠️ <b>اعتبارسنجی ناموفق بود</b>\nپروفایل را بررسی کنید: {reason}" rfl),
  (text "backup_confirm_save_failed" rfl,
    text "⚠️ <b>پروفایل ذخیره نشد</b>\nخطای داخلی رخ داد و هیچ تغییری پذیرفته نشد." rfl),
  (text "select_backup_edit" rfl,messageSection (text "✏️" rfl) (text "ویرایش بکاپ" rfl)
    (some (text "یک پروفایل بکاپ انتخاب کنید." rfl))),
  (text "select_backup_delete" rfl,messageSection (text "🗑" rfl) (text "حذف بکاپ" rfl)
    (some (text "یک پروفایل بکاپ انتخاب کنید." rfl))),
  (text "edit_backup_prompt" rfl,messageSection (text "✏️" rfl) (text "ویرایش بکاپ" rfl)
    (some (text "بخش موردنظر را انتخاب کنید." rfl))),
  (text "backup_updated" rfl,messageSection (text "✅" rfl) (text "بکاپ بروزرسانی شد" rfl)
    (some (text "تغییرات پروفایل ذخیره شد." rfl))),
  (text "backup_configuration_updated" rfl,messageSection (text "✅" rfl) (text "تنظیمات بروزرسانی شد" rfl)
    (some (text "بکاپ <code>{name}</code> به‌صورت اتمیک بروزرسانی شد." rfl))),
  (text "current_value" rfl,text "<b>مقدار فعلی:</b>" rfl),
  (text "existing_credential" rfl,
    text "🔐 <b>اطلاعات محرمانه ذخیره شده</b>\nمقدار جدید وارد کنید یا مقدار موجود را نگه دارید." rfl),
  (text "backup_status_changed" rfl,messageSection (text "✅" rfl) (text "وضعیت بروزرسانی شد" rfl)
    (some (text "وضعیت پروفایل بکاپ تغییر کرد." rfl))),
  (text "backup_run_queued" rfl,messageSection (text "✅" rfl) (text "بکاپ در صف است" rfl)
    (some (text "اجرای شماره <code>{run_id}</code> آماده شروع است." rfl))),
  (text "backup_run_active" rfl,messageSection (text "⚙️" rfl) (text "بکاپ در حال اجرا است" rfl)
    (some (text "مرحله: {stage}\nشروع: {started}" rfl))),
  (text "backup_backpressure" rfl,messageSection (text "⚠️" rfl) (text "بکاپ‌ها متوقف شده‌اند" rfl)
    (some (text "فضای تحویل به حد ایمنی تنظیم‌شده رسیده است." rfl))),
  (text "backup_delete_summary" rfl,
    text "⚠️ <b>بکاپ آرشیو شود؟</b>\nنام: <code>{name}</code>\nمنبع: {source}\nوضعیت: " rfl ++
      text "{status}\nدسترسی‌های تخصیص‌یافته لغو می‌شوند." rfl),
  (text "backup_deleted" rfl,messageSection (text "✅" rfl) (text "بکاپ آرشیو شد" rfl)
    (some (text "دسترسی‌های تخصیص‌یافته لغو شدند." rfl))),
  (text "select_admin_access" rfl,messageSection (text "👥" rfl) (text "دسترسی ادمین‌ها" rfl)
    (some (text "ادمین‌های مجاز این بکاپ را انتخاب کنید." rfl))),
  (text "my_backups_title" rfl,messageSection (text "📦" rfl) (text "بکاپ‌های من" rfl)
    (some (text "یکی از پروفایل‌های تخصیص‌یافته را انتخاب کنید." rfl)))]

def persianSixth : List (Text × Text) := [
  (text "audit_empty" rfl,messageSection (text "🧾" rfl) (text "رویدادی وجود ندارد" rfl)
    (some (text "هنوز فعالیتی ثبت نشده است." rfl))),
  (text "audit_title" rfl,messageSection (text "🧾" rfl) (text "گزارش فعالیت" rfl)
    (some (text "فعالیت‌های اخیر سامانه" rfl))),
  (text "help_text" rfl,messageSection (text "ℹ️" rfl) (text "راهنما" rfl)
    (some (text "برای مدیریت بکاپ‌ها از دکمه‌های منوی زیر استفاده کنید." rfl))),
  (text "permission_invalid" rfl,messageSection (text "⛔" rfl) (text "گزینه در دسترس نیست" rfl)
    (some (text "در این بخش اجازه استفاده از این گزینه را ندارید." rfl))),
  (text "caption_backup_completed" rfl,text "📦 <b>بکاپ کامل شد</b>" rfl),
  (text "caption_profile" rfl,text "📌 <b>پروفایل:</b> {value}" rfl),
  (text "caption_status" rfl,text "📋 <b>وضعیت:</b> کامل‌شده" rfl),
  (text "caption_started" rfl,text "⏱ <b>شروع:</b> {value}" rfl),
  (text "caption_completed" rfl,text "🏁 <b>پایان:</b> {value}" rfl),
  (text "caption_schedule" rfl,text "⏰ <b>زمان‌بندی:</b> {value}" rfl),
  (text "caption_next_run" rfl,text "⏭ <b>اجرای بعدی:</b> {value}" rfl),
  (text "caption_timezone" rfl,text "🌍 <b>منطقه زمانی:</b> {value}" rfl),
  (text "caption_source" rfl,text "🌐 <b>منبع:</b> {value}" rfl),
  (text "caption_source_database_value" rfl,text "پایگاه داده" rfl),
  (text "caption_database_type" rfl,text "🗄 <b>نوع پایگاه داده:</b> {value}" rfl),
  (text "caption_engine" rfl,text "⚙️ <b>موتور:</b> {value}" rfl),
  (text "caption_server_name" rfl,text "🏷 <b>نام سرور:</b> {value}" rfl),
  (text "caption_server" rfl,text "🖥 <b>سرور:</b> {value}" rfl),
  (text "caption_database" rfl,text "💾 <b>پایگاه داده:</b> {value}" rfl),
  (text "caption_path" rfl,text "📂 <b>مسیر (فایل / پوشه):</b> {value}" rfl),
  (text "caption_skipped" rfl,text "⚠️ <b>ردشده:</b> {value}" rfl),
  (text "caption_skipped_symlink_one" rfl,text "{count} پیوند نمادین ناامن" rfl),
  (text "caption_skipped_symlink_many" rfl,text "{count} پیوند نمادین ناامن" rfl),
  (text "caption_skipped_special_one" rfl,text "{count} فایل ویژه" rfl),
  (text "caption_skipped_special_many" rfl,text "{count} فایل ویژه" rfl),
  (text "caption_skipped_unreadable_one" rfl,text "{count} مورد خوانده‌نشده" rfl),
  (text "caption_skipped_unreadable_many" rfl,text "{count} مورد خوانده‌نشده" rfl),
  (text "caption_run_id" rfl,text "🆔 <b>شناسه اجرا:</b> {value}" rfl),
  (text "caption_original_size" rfl,text "📦 <b>اندازه اصلی بکاپ:</b> {value}" rfl),
  (text "caption_final_size" rfl,text "🗜 <b>اندازه نهایی بکاپ:</b> {value}" rfl),
  (text "caption_part" rfl,text "📄 <b>بخش {number} از {total}</b>" rfl),
  (text "settings_text" rfl,
    text "⚙️ <b>تنظیمات</b>\n\n<b>⚙️ محیط اجرا</b>\nمحیط: {environment} · نسخه: {version}\nپایتون: " rfl ++
      text "{python}\n\n<b>🗄 پایگاه داده</b>\n{backend}: {database}\nساختار: {schema}\nمهاجرت: " rfl ++
      text "{revision}\n\n<b>📡 تلگرام</b>\nبات / ورکر MTProto: {telegram}\nحد بارگذاری: {limit:,} " rfl ++
      text "بایت\n\n<b>🌐 شبکه</b>\nSOCKS5: {proxy} · {endpoint}\nاتصال: {proxy_status}\n\n<b>🕒 " rfl ++
      text "زمان</b>\nمنطقهٔ زمانی پشتیبان‌گیری: {timezone}\nزمان UTC: {utc}\n\n<b>💾 فضای " rfl ++
      text "ذخیره‌سازی</b>\n{storage} · آزاد: {disk:,} MiB\nدر انتظار: {pending_count} / {pending:,} " rfl ++
      text "MiB\n{directories}\n\n<b>🗂 پشتیبان‌ها</b>\nپروفایل‌ها: {profiles} · اجراهای فعال: " rfl ++
      text "{running}\nزمان‌بند: {scheduler}\nناموفق: {failed} · فایل‌های نگهداری‌شده: " rfl ++
      text "{retained}\n\n<b>🔐 امنیت</b>\nرمزنگاری اطلاعات محرمانه: {encryption}" rfl),
  (text "health_text" rfl,
    text "🩺 <b>سلامت سیستم</b>\nوضعیت کلی: {status}\n\n{live} برنامه\n{database} پایگاه داده " rfl ++
      text "({backend})\n{schema} ساختار / مهاجرت‌ها\n{worker} ورکر\n{scheduler} زمان‌بند\n{telegram} " rfl ++
      text "بات / ورکر تلگرام\n{proxy} پراکسی\n{helper} دستیار GitLab\n{storage} فضای " rfl ++
      text "ذخیره‌سازی\n\n<b>💾 فضای ذخیره‌سازی</b>\nآزاد / مصرف‌شده: {disk:,} / {used:,} MiB\nدر " rfl ++
      text "انتظار: {pending_count} / {pending:,} MiB\n\n<b>🗂 عملیات</b>\nدر صف / در حال اجرا / ناموفق: " rfl ++
      text "{queued} / {running} / {failed}\nاجاره‌های منقضی: {stale} · فایل‌های نگهداری‌شده: " rfl ++
      text "{retained}\nابزارهای در دسترس: {tools}\nمهاجرت: {revision}\n\n<b>📂 مسیرهای " rfl ++
      text "اجرا</b>\n{directories}\n\n🕒 زمان بررسی: {checked}" rfl),
  (text "active" rfl,text "فعال" rfl),
  (text "inactive" rfl,text "غیرفعال" rfl),
  (text "yes" rfl,text "بله" rfl),
  (text "no" rfl,text "خیر" rfl),
  (text "schedule_interval_mode" rfl,text "🕒 زمان‌بندی بازه‌ای" rfl),
  (text "choose_schedule_mode" rfl,
    text "⏱ <b>نوع زمان‌بندی</b>\nبازه‌ای یا کرون را انتخاب کنید. منطقهٔ زمانی: " rfl ++
      text "<code>{timezone}</code>.{current}" rfl),
  (text "current_schedule_mode" rfl,text "\n\n<b>نوع فعلی:</b> {mode}\n{schedule}" rfl),
  (text "available_paths" rfl,text "📌 <b>مسیرهای در دسترس</b>\n{paths}\nبرای کپی روی مسیر بزنید." rfl),
  (text "no_available_paths" rfl,text "در حال حاضر هیچ مسیر تأییدشده‌ای توسط ورکر در دسترس گزارش نشده است." rfl),
  (text "invalid_cron" rfl,
    text "⚠️ <b>عبارت کرون نامعتبر</b>\nیک عبارت معتبر کرون لینوکس با ۵ فیلد بفرستید؛ مانند <code>30 3 " rfl ++
      text "* * *</code>." rfl),
  (text "health_healthy" rfl,text "🟢 سالم" rfl),
  (text "health_warning" rfl,text "🟡 هشدار" rfl),
  (text "health_error" rfl,text "🔴 خطا" rfl),
  (text "health_disabled" rfl,text "⚪ غیرفعال / پیکربندی نشده" rfl),
  (text "health_unverified" rfl,text "🟡 بررسی نشده" rfl),
  (text "health_unavailable" rfl,
    text "🔴 <b>وضعیت سلامت در دسترس نیست</b>\nبررسی سلامت پایگاه داده ناموفق بود. گزارش‌های سرویس را " rfl ++
      text "بررسی کنید." rfl),
  (text "audit_entry" rfl,text "{icon} <b>{name}</b>\n🕒 {timestamp}\n{details}" rfl),
  (text "audit_target" rfl,text "هدف: {kind} <code>{target}</code>" rfl),
  (text "audit_actor" rfl,text "کاربر: <code>{actor}</code>" rfl),
  (text "audit_detail" rfl,text "{label}: {value}" rfl),
  (text "audit_unknown" rfl,text "رویداد {event}" rfl),
  (text "audit_event_application_startup" rfl,text "راه‌اندازی برنامه" rfl),
  (text "audit_event_proxy_mode" rfl,text "حالت پراکسی" rfl),
  (text "audit_event_telegram_connection_state" rfl,text "اتصال تلگرام" rfl),
  (text "audit_event_backup_timezone_changed" rfl,text "تغییر منطقهٔ زمانی پشتیبان‌گیری" rfl),
  (text "audit_event_backup_created" rfl,text "پشتیبان ایجاد شد" rfl),
  (text "audit_event_backup_edited" rfl,text "پشتیبان ویرایش شد" rfl)]

def persianSeventh : List (Text × Text) := [
  (text "audit_event_backup_deleted" rfl,text "پشتیبان حذف شد" rfl),
  (text "audit_event_backup_enabled" rfl,text "پشتیبان فعال شد" rfl),
  (text "audit_event_backup_disabled" rfl,text "پشتیبان غیرفعال شد" rfl),
  (text "audit_event_admin_created" rfl,text "مدیر ایجاد شد" rfl),
  (text "audit_event_admin_edited" rfl,text "مدیر ویرایش شد" rfl),
  (text "audit_event_admin_deleted" rfl,text "مدیر حذف شد" rfl),
  (text "audit_event_admin_enabled" rfl,text "مدیر فعال شد" rfl),
  (text "audit_event_admin_disabled" rfl,text "مدیر غیرفعال شد" rfl),
  (text "audit_event_remote_server_created" rfl,text "سرور راه دور ایجاد شد" rfl),
  (text "audit_event_remote_server_edited" rfl,text "سرور راه دور ویرایش شد" rfl),
  (text "audit_event_remote_server_deleted" rfl,text "سرور راه دور حذف شد" rfl),
  (text "audit_event_remote_server_enabled" rfl,text "سرور راه دور فعال شد" rfl),
  (text "audit_event_remote_server_disabled" rfl,text "سرور راه دور غیرفعال شد" rfl),
  (text "audit_event_backup_draft_created" rfl,text "ایجاد پیش‌نویس پشتیبان" rfl),
  (text "audit_event_backup_profile_configured" rfl,text "پیکربندی پشتیبان" rfl),
  (text "audit_event_backup_profile_configuration_updated" rfl,text "ویرایش پیکربندی پشتیبان" rfl),
  (text "audit_event_backup_access_granted" rfl,text "اعطای دسترسی پشتیبان" rfl),
  (text "audit_event_backup_access_revoked" rfl,text "لغو دسترسی پشتیبان" rfl),
  (text "audit_event_language_changed" rfl,text "تغییر زبان" rfl),
  (text "audit_event_superadmin_bootstrap" rfl,text "آماده‌سازی مدیر ارشد" rfl),
  (text "audit_event_superadmin_restored" rfl,text "بازیابی مدیر ارشد" rfl),
  (text "audit_event_remote_server_trusted" rfl,text "تأیید سرور راه دور" rfl),
  (text "audit_event_remote_server_retrusted" rfl,text "تغییر تأیید سرور راه دور" rfl),
  (text "audit_event_remote_server_connection_tested" rfl,text "آزمایش اتصال راه دور" rfl),
  (text "audit_event_backup_run_queued" rfl,text "اجرای پشتیبان: در صف" rfl),
  (text "audit_event_backup_run_claimed" rfl,text "اجرای پشتیبان: دریافت شد" rfl),
  (text "audit_event_backup_run_started" rfl,text "اجرای پشتیبان: آغاز شد" rfl),
  (text "audit_event_backup_run_completed" rfl,text "اجرای پشتیبان: تکمیل شد" rfl),
  (text "audit_event_backup_run_failed" rfl,text "اجرای پشتیبان: ناموفق" rfl),
  (text "audit_event_backup_run_cancelled" rfl,text "اجرای پشتیبان: لغو شد" rfl),
  (text "audit_event_backup_run_cancel_requested" rfl,text "اجرای پشتیبان: درخواست لغو" rfl),
  (text "audit_event_backup_run_retry_requested" rfl,text "اجرای پشتیبان: درخواست تلاش مجدد" rfl),
  (text "audit_event_backup_run_recovered" rfl,text "اجرای پشتیبان: بازیابی شد" rfl),
  (text "audit_event_backup_run_delivery_pending" rfl,text "اجرای پشتیبان: در انتظار ارسال" rfl),
  (text "audit_event_backup_run_delivery_retried" rfl,text "اجرای پشتیبان: تلاش مجدد ارسال" rfl),
  (text "audit_event_backup_run_artifact_purged" rfl,text "اجرای پشتیبان: حذف فایل" rfl),
  (text "audit_label_connected" rfl,text "متصل" rfl),
  (text "audit_label_proxy_enabled" rfl,text "پراکسی" rfl),
  (text "audit_label_socks5_enabled" rfl,text "SOCKS5" rfl),
  (text "audit_label_mode" rfl,text "حالت" rfl),
  (text "audit_label_status" rfl,text "وضعیت" rfl),
  (text "audit_label_stage" rfl,text "مرحله" rfl),
  (text "audit_label_error_code" rfl,text "کد خطا" rfl),
  (text "audit_label_admin_id" rfl,text "شناسهٔ مدیر" rfl),
  (text "audit_label_timezone" rfl,text "منطقهٔ زمانی" rfl),
  (text "audit_label_backup" rfl,text "پشتیبان" rfl),
  (text "audit_label_backup_run" rfl,text "اجرا" rfl),
  (text "audit_label_admin" rfl,text "مدیر" rfl),
  (text "audit_label_user" rfl,text "کاربر" rfl),
  (text "audit_label_remote_server" rfl,text "سرور راه دور" rfl),
  (text "audit_label_system_settings" rfl,text "تنظیمات" rfl),
  (text "health_idle" rfl,text "⚪ آماده (بدون پروفایل زمان‌بندی‌شده)" rfl),
  (text "audit_label_backup_timezone" rfl,text "منطقهٔ زمانی پشتیبان‌گیری" rfl),
  (text "audit_label_source_type" rfl,text "منبع" rfl),
  (text "audit_label_schedule" rfl,text "زمان‌بندی" rfl),
  (text "audit_label_compression" rfl,text "فشرده‌سازی" rfl),
  (text "audit_label_encryption" rfl,text "رمزنگاری" rfl),
  (text "audit_label_assigned_admin_count" rfl,text "مدیران مجاز" rfl),
  (text "audit_label_enabled" rfl,text "فعال" rfl),
  (text "audit_label_database_credentials_changed" rfl,text "تغییر رمز پایگاه داده" rfl)]

def persianEighth : List (Text × Text) := [
  (text "audit_label_age_unlock_changed" rfl,text "تغییر عبارت عبور Age" rfl),
  (text "audit_event_backup_run_succeeded" rfl,text "اجرای پشتیبان موفق" rfl),
  (text "audit_event_backup_run_retention_cleanup" rfl,text "پاک‌سازی فایل نگهداری‌شده" rfl),
  (text "audit_event_authorization_denied" rfl,text "دسترسی رد شد" rfl)]

/-- No key stands twice. -/
def persian : List (Text × Text) :=
  persianFirst ++ persianSecond ++ persianThird ++ persianFourth ++ persianFifth ++ persianSixth ++ persianSeventh ++ persianEighth

end BackupTelebot.Messages
