import BackupTelebot.Delivery

/-! Who is entitled to a run's artifact, and what has become of the deliveries: facts about
the lists that an attempt works on. -/
namespace BackupTelebot

/-- The administrators that an attempt may select: those with access, of whom a snapshot
keeps only the ones it names. -/
def World.assigned (s : World) (c : Setup) : List AdminId :=
  match c.snapshotAdmins with
  | some ids => s.access.filter (ids.contains ·)
  | none => s.access

/-- The users that an attempt selects when nothing changes while it asks. -/
def World.selected (s : World) (c : Setup) : List User :=
  identities
    (s.users.filter fun user => (s.assigned c).contains user.id && user.role = .admin && user.available)
    (s.users.filter fun user => user.role = .superadmin && user.available)

def World.recipients (s : World) (c : Setup) : List AdminId := selectedIds (s.selected c)

def World.delivered (s : World) (admin : AdminId) : Prop :=
  ∃ delivery ∈ s.deliveries, delivery.adminId = admin ∧ delivery.status = .succeeded

instance (s : World) (admin : AdminId) : Decidable (s.delivered admin) := by
  unfold World.delivered
  infer_instance

theorem mem_writeDelivery {base cur row : BackupDelivery} {rows : List BackupDelivery} :
    row ∈ writeDelivery base cur rows ↔
      ∃ before ∈ rows, row = if before.adminId = base.adminId then flushDelivery base cur before else before := by
  simp only [writeDelivery,List.mem_map,eq_comm]

theorem flushDelivery_adminId (base cur row : BackupDelivery) : (flushDelivery base cur row).adminId = row.adminId := rfl

/-- What retrying does to one row: the failed rows of its recipient are written over it. -/
theorem mem_retryDeliveries {loaded rows : List BackupDelivery} {now : Time} {row : BackupDelivery}
    (member : row ∈ retryDeliveries loaded now rows) :
    ∃ before ∈ rows, row.adminId = before.adminId ∧
      ((∃ failed ∈ loaded, failed.status = .failed ∧ failed.adminId = row.adminId) ∧ row.status = .pending ∨
        (∀ failed ∈ loaded, failed.status = .failed → failed.adminId ≠ row.adminId) ∧ row = before) := by
  have step (failures : List BackupDelivery) (all : ∀ failed ∈ failures, failed.status = .failed)
      (rows : List BackupDelivery)
      (member : row ∈ failures.foldl (fun rows delivery => writeDelivery delivery (delivery.retried now) rows) rows) :
      ∃ before ∈ rows, row.adminId = before.adminId ∧
        ((∃ failed ∈ failures, failed.adminId = row.adminId) ∧ row.status = .pending ∨
          (∀ failed ∈ failures, failed.adminId ≠ row.adminId) ∧ row = before) := by
    induction failures generalizing rows with
    | nil => exact ⟨row,member,rfl,.inr ⟨by simp,rfl⟩⟩
    | cons failed rest ih =>
      obtain ⟨middle,written,sameId,result⟩ := ih (fun d later => all d (List.mem_cons_of_mem _ later)) _ member
      obtain ⟨before,present,rfl⟩ := mem_writeDelivery.mp written
      have status : failed.status = .failed := all failed List.mem_cons_self
      refine ⟨before,present,?_,?_⟩
      · rw [sameId]
        split
        · rfl
        · rfl
      · by_cases same : before.adminId = failed.adminId
        · have here : failed.adminId = row.adminId := by rw [sameId,if_pos same,flushDelivery_adminId,same]
          refine .inl ⟨⟨failed,List.mem_cons_self,here⟩,?_⟩
          rcases result with ⟨-,pending⟩ | ⟨-,unchanged⟩
          · exact pending
          · rw [unchanged,if_pos same]
            simp [flushDelivery,column,BackupDelivery.retried,status]
        · rw [if_neg same] at sameId result
          rcases result with ⟨⟨other,later,theirs⟩,pending⟩ | ⟨others,unchanged⟩
          · exact .inl ⟨⟨other,List.mem_cons_of_mem _ later,theirs⟩,pending⟩
          · refine .inr ⟨?_,unchanged⟩
            intro other member
            rcases List.mem_cons.mp member with first | later
            · subst first
              rw [sameId]
              exact fun clash => same clash.symm
            · exact others other later
  obtain ⟨before,present,sameId,result⟩ := step (loaded.filter (·.status = .failed)) (by simp) rows member
  refine ⟨before,present,sameId,?_⟩
  rcases result with ⟨⟨failed,kept,theirs⟩,pending⟩ | ⟨others,unchanged⟩
  · obtain ⟨there,status⟩ := List.mem_filter.mp kept
    exact .inl ⟨⟨failed,there,by simpa using status,theirs⟩,pending⟩
  · exact .inr ⟨fun failed there status => others failed (List.mem_filter.mpr ⟨there,by simpa using status⟩),unchanged⟩

/-- A row stays as it is when its recipient has no failed one. -/
theorem mem_retryDeliveries_of_kept {loaded rows : List BackupDelivery} {now : Time} {row : BackupDelivery}
    (member : row ∈ rows) (others : ∀ failed ∈ loaded, failed.status = .failed → failed.adminId ≠ row.adminId) :
    row ∈ retryDeliveries loaded now rows := by
  have kept : ∀ failed ∈ loaded.filter (·.status = .failed), failed.adminId ≠ row.adminId := by
    intro failed present
    obtain ⟨there,status⟩ := List.mem_filter.mp present
    exact others failed there (by simpa using status)
  unfold retryDeliveries
  generalize loaded.filter (·.status = .failed) = failures at kept ⊢
  induction failures generalizing rows with
  | nil => exact member
  | cons failed rest ih =>
    apply ih
    · exact mem_writeDelivery.mpr ⟨row,member,(if_neg (kept failed List.mem_cons_self).symm).symm⟩
    · exact fun other later => kept other (List.mem_cons_of_mem _ later)

end BackupTelebot
