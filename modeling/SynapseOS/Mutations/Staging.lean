import SynapseOS.Mutations.Mutator
import SynapseOS.Workspaces.Calls

/-! The disk while an operation works in its transaction area. -/

namespace SynapseOS.Mutations

open Tools Execution Workspaces Program

def view (disk : Files) (place : Place Slot Name) : Option (Option (ByteArray × Nat)) :=
  (Entries.shape (disk.find place)).map fun seen => seen.map fun inode =>
    ((disk.inodes inode).content, (disk.inodes inode).mode)

inductive Undo (before after : Files) (transaction : LocalMutationTransaction) (token : String) :
    Entries Name → Prop
  | created (created : transaction.created = true) (bare : transaction.backup = none)
      (absent : ∀ node, before.find transaction.target ≠ .ok node)
      (there : ∃ inode, after.find transaction.target = .ok (.file inode)) :
      Undo before after transaction token []
  | saved (name : Name) (backup inode mode : Nat) (original : ByteArray)
      (kept : transaction.created = false)
      (place : transaction.backup =
        some ⟨.transactions, [.operation transaction.project token], name⟩)
      (new : before.fresh ≤ backup) (copy : after.inodes backup = ⟨original, 0o600, 1⟩)
      (moded : transaction.originalMode = some mode)
      (found : before.find transaction.target = .ok (.file inode))
      (content : (before.inodes inode).content = original)
      (bits : (before.inodes inode).mode = mode)
      (standing : (∃ other, after.find transaction.target = .ok (.file other) ∧ backup ≠ other) ∨
        after.vacant transaction.target = .ok ()) :
      Undo before after transaction token [(name, .file backup)]

/-- The disk while a transaction is pending: its area holds the backup, and below the projects one
name has changed. -/
structure Pending (before after : Files) (transaction : LocalMutationTransaction) (token : String)
    (entries : Entries Name) (f : Entries Name → Entries Name) : Prop where
  area : transaction.area = operationDirectory .transactions transaction.project token
  inProjects : transaction.target.slot = .projects
  unfinished : transaction.finished = false
  fresh : Assoc.get (.operation transaction.project token) (before.top .transactions) = none
  areas : after.top .transactions = before.top .transactions ++
    [(.operation transaction.project token, .directory entries)]
  projects : after.top .projects = Entries.alter f transaction.target.path (before.top .projects)
  elsewhere : ∀ slot, slot ≠ .transactions → slot ≠ .projects → after.top slot = before.top slot
  only : Entries.OnlyAt transaction.target.name f
  entered : ∃ inner, Entries.enter transaction.target.path (before.top .projects) = .ok inner ∧
    ∀ below, Assoc.get transaction.target.name inner ≠ some (.directory below)
  inodes : ∀ inode < before.fresh, (after.inodes inode).content = (before.inodes inode).content ∧
    (after.inodes inode).mode = (before.inodes inode).mode
  undo : Undo before after transaction token entries

/-- Since `before`, the disk got an area with these entries, and nothing else. -/
structure Staged (before after : Files) (area : Name) (entries : Entries Name) : Prop where
  fresh : Assoc.get area (before.top .transactions) = none
  area : after.top .transactions = before.top .transactions ++ [(area, .directory entries)]
  elsewhere : ∀ slot, slot ≠ .transactions → after.top slot = before.top slot
  inodes : ∀ inode < before.fresh, after.inodes inode = before.inodes inode
  artifacts : ∀ name node, Assoc.get name entries = some node →
    ∃ inode, node = .file inode ∧ before.fresh ≤ inode

section Staged

variable {before after : Files} {area name : Name} {entries : Entries Name} {inode : Nat}

theorem staged_begin {project : UUID} {token : String}
    (free : Assoc.get (.operation project token) (before.top .transactions) = none) :
    Staged before (before.bind (operationDirectory .transactions project token) (.directory []))
      (.operation project token) [] where
  fresh := free
  area := bind_direct free
  elsewhere _ different := Disk.alter_top_other _ _ _ different
  inodes _ _ := rfl
  artifacts _ _ held := nomatch held

variable (staged : Staged before after area entries)

include staged

theorem staged_area : Assoc.get area (after.top .transactions) = some (.directory entries) := by
  rw [staged.area, Assoc.get_concat _ _ _ _ staged.fresh, if_pos rfl]

theorem staged_enter : Entries.enter [area] (after.top .transactions) = .ok entries := by
  rw [staged.area, Entries.enter_last staged.fresh]

theorem staged_find {node : Node Name} (held : Assoc.get name entries = some node) :
    after.find ⟨.transactions, [area], name⟩ = .ok node :=
  (Disk.find_eq _ _ _).mpr ⟨entries, staged_enter staged, held⟩

theorem staged_missing (absent : Assoc.get name entries = none) :
    after.find ⟨.transactions, [area], name⟩ = .error .missing := by
  have entered := staged_enter staged
  simp [Disk.find, Entries.find, entered, bind, Except.bind, absent]

theorem staged_alter (f : Entries Name → Entries Name)
    (artifacts : ∀ name node, Assoc.get name (f entries) = some node →
      ∃ inode, node = .file inode ∧ before.fresh ≤ inode) :
    Staged before (after.alter .transactions [area] f) area (f entries) where
  fresh := staged.fresh
  area := by rw [Disk.alter_top_self, staged.area, Entries.alter_last f staged.fresh]
  elsewhere slot different := by
    rw [Disk.alter_top_other _ _ _ different, staged.elsewhere slot different]
  inodes inode known := staged.inodes inode known
  artifacts := artifacts

theorem staged_bind (absent : Assoc.get name entries = none) (new : before.fresh ≤ inode) :
    Staged before (after.bind ⟨.transactions, [area], name⟩ (.file inode)) area
      (entries ++ [(name, .file inode)]) := by
  rw [← Assoc.set_fresh name (Node.file inode) entries absent]
  apply staged_alter staged
  intro other node held
  rw [Assoc.get_set] at held
  split at held
  · cases held
    exact ⟨inode, rfl, new⟩
  · exact staged.artifacts other node held

theorem staged_unbind (name : Name) :
    Staged before (after.unbind ⟨.transactions, [area], name⟩) area (Assoc.erase name entries) := by
  apply staged_alter staged
  intro other node held
  rw [Assoc.get_erase] at held
  split at held
  · cases held
  · exact staged.artifacts other node held

theorem staged_touch (new : before.fresh ≤ inode) (f : Inode → Inode) :
    Staged before (after.touch inode f) area entries where
  fresh := staged.fresh
  area := staged.area
  elsewhere := staged.elsewhere
  inodes other known := by
    have different : other ≠ inode := by omega
    rw [Disk.touch_inodes_other _ f different, staged.inodes other known]
  artifacts := staged.artifacts

theorem staged_fresh : before.fresh ≤ after.fresh := by
  apply Disk.fresh_mono
  intro slot
  by_cases same : slot = .transactions
  · rw [same, staged.area, Entries.bound_append]
    exact le_max_left _ _
  · rw [staged.elsewhere slot same]

theorem staged_create (absent : Assoc.get name entries = none) (mode : Nat) :
    ∃ made, after.create ⟨.transactions, [area], name⟩ mode = .ok made ∧
      Staged before made area (entries ++ [(name, .file after.fresh)]) ∧
      made.inodes after.fresh = ⟨.empty, mode, 1⟩ ∧
      ∀ other < after.fresh, made.inodes other = after.inodes other := by
  have entered := staged_enter staged
  have grown := staged_fresh staged
  refine ⟨_, ?_, staged_touch (staged_bind staged absent grown) grown fun _ => ⟨.empty, mode, 1⟩,
    Disk.touch_inodes_self _ _ _, ?_⟩
  · simp only [Disk.create, Disk.vacant, entered, bind, Except.bind, absent]
  · intro other known
    exact Disk.touch_inodes_other _ _ (by omega)

theorem staged_taken (taken : (Assoc.get name entries).isSome) (mode : Nat) :
    after.create ⟨.transactions, [area], name⟩ mode = .error .exists_ := by
  obtain ⟨node, held⟩ := Option.isSome_iff_exists.mp taken
  have entered := staged_enter staged
  simp [Disk.create, Disk.vacant, entered, bind, Except.bind, held]

theorem staged_unlink (name : Name) :
    ∃ left, unlinkMissingOk false ⟨.transactions, [area], name⟩ after =
      (.ok (), left) ∧ Staged before left area (Assoc.erase name entries) := by
  cases held : Assoc.get name entries with
  | none =>
      have gone : after.unlink ⟨.transactions, [area], name⟩ = .error .missing := by
        simp [Disk.unlink, staged_missing staged held, bind, Except.bind]
      refine ⟨after, ?_, ?_⟩
      · unfold unlinkMissingOk
        rw [run_attempt (change_error gone)]
        rfl
      · rw [Assoc.erase_fresh name entries held]
        exact staged
  | some node =>
      obtain ⟨inode, rfl, new⟩ := staged.artifacts name node held
      have unlinked := staged_touch (staged_unbind staged name) new
        fun held => { held with links := held.links - 1 }
      refine ⟨_, ?_, unlinked⟩
      have gone : after.unlink ⟨.transactions, [area], name⟩ =
          .ok ((after.unbind ⟨.transactions, [area], name⟩).unlinked (some (.file inode))) := by
        simp [Disk.unlink, staged_find staged held, bind, Except.bind]
      unfold unlinkMissingOk
      rw [run_attempt (change_ok gone)]
      rfl

end Staged

section Artifacts

def fills (faults : Faults) : Bool :=
  !(faults .write || faults .flush || faults .fsync || faults .close || faults .chmod)

def drawn (host : Host) (which : Artifact) (taken : List Name) : Nat → Nat → Option Name
  | 0, _ => none
  | remaining + 1, turn =>
      let faults := host.faults (.artifact which turn)
      let name := artifactName (host.token which turn)
      if faults .open_ = true then none
      else if name ∈ taken then drawn host which taken remaining (turn + 1)
      else if fills faults = true then some name
      else none

variable {before after : Files} {area name : Name} {entries : Entries Name} {inode : Nat}

theorem fillArtifact_ok {faults : Faults} (fine : fills faults = true)
    {candidate : Place Slot Name} (found : after.find candidate = .ok (.file inode))
    (content : ByteArray) (mode : Nat) :
    ∃ filled, fillArtifact faults candidate content mode after = (.ok (), filled) ∧
      filled = (after.touch inode fun held => { held with content := content }).touch inode
        fun held => { held with mode := mode } := by
  simp only [fills, Bool.not_eq_true', Bool.or_eq_false_iff] at fine
  obtain ⟨⟨⟨⟨written, flushed⟩, synced⟩, closed⟩, moded⟩ := fine
  have first : after.write candidate content =
      .ok (after.touch inode fun held => { held with content := content }) := by
    simp [Disk.write, Disk.change, found, bind, Except.bind]
  have again : (after.touch inode fun held => { held with content := content }).find candidate =
      .ok (.file inode) := found
  have second : (after.touch inode fun held => { held with content := content }).chmod
      candidate mode = .ok ((after.touch inode fun held => { held with content := content }).touch
        inode fun held => { held with mode := mode }) := by
    simp [Disk.chmod, Disk.change, again, bind, Except.bind]
  unfold fillArtifact
  rw [written, flushed, synced, closed, moded, run_ok (change_ok first), run_ok quiet_ok,
    run_ok quiet_ok, run_ok quiet_ok]
  exact ⟨_, change_ok second, rfl⟩

theorem fillArtifact_fault {faults : Faults} (failing : fills faults = false)
    (staged : Staged before after area entries)
    (held : Assoc.get name entries = some (.file inode)) (content : ByteArray) (mode : Nat) :
    ∃ filled, fillArtifact faults ⟨.transactions, [area], name⟩ content mode after =
      (.error (.os .fault), filled) ∧ Staged before filled area entries := by
  obtain ⟨_, same, new⟩ := staged.artifacts name _ held
  cases same
  have found := staged_find staged held
  have first : after.write ⟨.transactions, [area], name⟩ content =
      .ok (after.touch inode fun held => { held with content := content }) := by
    simp [Disk.write, Disk.change, found, bind, Except.bind]
  have filled := staged_touch staged new fun held => { held with content := content }
  unfold fillArtifact
  cases written : faults .write with
  | true => exact ⟨after, run_error (change_fault _), staged⟩
  | false =>
      rw [run_ok (change_ok first)]
      cases flushed : faults .flush with
      | true => exact ⟨_, run_error quiet_fault, filled⟩
      | false =>
          rw [run_ok quiet_ok]
          cases synced : faults .fsync with
          | true => exact ⟨_, run_error quiet_fault, filled⟩
          | false =>
              rw [run_ok quiet_ok]
              cases closed : faults .close with
              | true => exact ⟨_, run_error quiet_fault, filled⟩
              | false =>
                  rw [run_ok quiet_ok]
                  have moded : faults .chmod = true := by
                    simpa [fills, written, flushed, synced, closed] using failing
                  rw [moded]
                  exact ⟨_, change_fault _, filled⟩

structure Written (before after written : Files) (area name : Name) (entries : Entries Name)
    (content : ByteArray) (mode inode : Nat) : Prop where
  staged : Staged before written area (entries ++ [(name, .file inode)])
  absent : Assoc.get name entries = none
  new : after.fresh ≤ inode
  holds : written.inodes inode = ⟨content, mode, 1⟩
  others : ∀ other < after.fresh, written.inodes other = after.inodes other

variable {host : Host} {which : Artifact}

theorem artifactPlace_eq (token : String) :
    artifactPlace ⟨.transactions, [], area⟩ token = ⟨.transactions, [area], artifactName token⟩ :=
  rfl

theorem writeArtifact_drawn (staged : Staged before after area entries) (content : ByteArray)
    (mode remaining turn : Nat)
    (draws : drawn host which (entries.map Prod.fst) remaining turn = some name) :
    ∃ written inode,
      writeArtifact host which ⟨.transactions, [], area⟩ content mode remaining turn after =
        (.ok ⟨.transactions, [area], name⟩, written) ∧
      Written before after written area name entries content mode inode := by
  induction remaining generalizing turn with
  | zero => cases draws
  | succ remaining ih =>
      unfold drawn at draws
      unfold writeArtifact
      simp only [artifactPlace_eq] at draws ⊢
      split at draws
      · cases draws
      · next opened =>
          rw [Bool.not_eq_true] at opened
          rw [opened]
          split at draws
          · next taken =>
              have refused : change false (fun disk => disk.create
                  ⟨.transactions, [area], artifactName (host.token which turn)⟩ 0o600) after =
                    (.error (.os .exists_), after) :=
                change_error (staged_taken staged ((Assoc.get_isSome _ _).mpr taken) 0o600)
              rw [run_attempt refused]
              exact ih (turn + 1) draws
          · next absent =>
              rw [← Assoc.get_isSome, Option.not_isSome_iff_eq_none] at absent
              split at draws
              · next fine =>
                  cases draws
                  obtain ⟨made, created, inside, held, others⟩ := staged_create staged absent 0o600
                  have opens : change false (fun disk => disk.create
                      ⟨.transactions, [area], artifactName (host.token which turn)⟩ 0o600) after =
                        (.ok (), made) :=
                    change_ok created
                  have there : Assoc.get (artifactName (host.token which turn))
                      (entries ++ [(artifactName (host.token which turn), .file after.fresh)]) =
                        some (.file after.fresh) := by
                    rw [Assoc.get_concat _ _ _ _ absent, if_pos rfl]
                  have grown := staged_fresh staged
                  obtain ⟨filled, fills, rfl⟩ :=
                    fillArtifact_ok fine (staged_find inside there) content mode
                  rw [run_attempt opens]
                  dsimp only
                  rw [run_attempt fills]
                  refine ⟨_, after.fresh, rfl, ?_, absent, le_refl _, ?_, ?_⟩
                  · exact staged_touch (staged_touch inside grown _) grown _
                  · simp [held]
                  · intro other known
                    rw [Disk.touch_inodes_other _ _ (by omega),
                      Disk.touch_inodes_other _ _ (by omega), others other known]
              · cases draws

theorem unlinkMissingOk_fault (place : Place Slot Name) :
    unlinkMissingOk true place after = (.error (.os .fault), after) := by
  unfold unlinkMissingOk
  rw [run_attempt (change_fault _)]
  rfl

theorem writeArtifact_undrawn (staged : Staged before after area entries) (content : ByteArray)
    (mode remaining turn : Nat)
    (missing : drawn host which (entries.map Prod.fst) remaining turn = none) :
    ∃ e left others,
      writeArtifact host which ⟨.transactions, [], area⟩ content mode remaining turn after =
        (.error e, left) ∧ Staged before left area others := by
  induction remaining generalizing turn with
  | zero => exact ⟨_, after, entries, rfl, staged⟩
  | succ remaining ih =>
      unfold drawn at missing
      unfold writeArtifact
      simp only [artifactPlace_eq] at missing ⊢
      split at missing
      · next closed =>
          rw [closed, run_attempt (change_fault _)]
          exact ⟨_, after, entries, rfl, staged⟩
      · next opened =>
          rw [Bool.not_eq_true] at opened
          rw [opened]
          split at missing
          · next taken =>
              have refused : change false (fun disk => disk.create
                  ⟨.transactions, [area], artifactName (host.token which turn)⟩ 0o600) after =
                    (.error (.os .exists_), after) :=
                change_error (staged_taken staged ((Assoc.get_isSome _ _).mpr taken) 0o600)
              rw [run_attempt refused]
              exact ih (turn + 1) missing
          · next absent =>
              rw [← Assoc.get_isSome, Option.not_isSome_iff_eq_none] at absent
              split at missing
              · cases missing
              · next failing =>
                  rw [Bool.not_eq_true] at failing
                  obtain ⟨made, created, inside, _, _⟩ := staged_create staged absent 0o600
                  have opens : change false (fun disk => disk.create
                      ⟨.transactions, [area], artifactName (host.token which turn)⟩ 0o600) after =
                        (.ok (), made) :=
                    change_ok created
                  have there : Assoc.get (artifactName (host.token which turn))
                      (entries ++ [(artifactName (host.token which turn), .file after.fresh)]) =
                        some (.file after.fresh) := by
                    rw [Assoc.get_concat _ _ _ _ absent, if_pos rfl]
                  obtain ⟨filled, lost, kept⟩ :=
                    fillArtifact_fault failing inside there content mode
                  rw [run_attempt opens]
                  dsimp only
                  rw [run_attempt lost]
                  dsimp only
                  cases discards : host.faults (.artifact which turn) .unlink with
                  | true =>
                      rw [run_error (unlinkMissingOk_fault _)]
                      exact ⟨_, filled, _, rfl, kept⟩
                  | false =>
                      obtain ⟨left, unlinked, rest⟩ :=
                        staged_unlink kept (artifactName (host.token which turn))
                      rw [run_ok unlinked]
                      exact ⟨_, left, _, rfl, rest⟩

end Artifacts

end SynapseOS.Mutations
