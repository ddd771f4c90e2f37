import HighlightCheck.Proofs.Activity
import HighlightCheck.Proofs.Delimited
import HighlightCheck.Proofs.Delivery
import Mathlib.Algebra.Ring.Nat
import Mathlib.Data.List.Nodup

/-!
# The ledger of a log

The records that are emitted of guards tell by themselves which guards are active. Their messages are
read as notices, and the notices are entered in a ledger, which keeps the numbers of the active guards
and those of the released ones and accepts a notice only if it fits what is entered already.

* `Notice.ofMessage?`: a message, read. `ofMessage?_loadMessage`, `ofMessage?_releaseMessage`: what is
  written of a guard is read as it was meant.
* `Ledger.enter?`, `Ledger.replay?`: one notice and many notices entered.
* `perm_of_replay?`, `length_released_of_replay?`: nothing is entered twice or lost.
* `Thread.Told`: the notices of some operations, and what they do to the ledger. `told_step`,
  `told_run`: every operation on guards and every run of them has such notices.
* `Thread.ledger_correct`: the records of a run, replayed.
-/

namespace HighlightCheck

/-! ## Reading messages -/

namespace Text

/-- What follows a fixed beginning. -/
def after? (fixed : String) (cs : List Char) : Option (List Char) :=
  fixed.toList.isPrefixOf? cs

/-- The number at the beginning, and what follows it. -/
def number? (cs : List Char) : Option (Nat × List Char) :=
  match cs.takeWhile Char.isDigit with
  | [] => none
  | digits => some (Nat.ofDigitChars 10 digits 0, cs.dropWhile Char.isDigit)

theorem after?_append (fixed : String) (rest : List Char) :
    after? fixed (fixed.toList ++ rest) = some rest :=
  List.isPrefixOf?_eq_some_iff_append_eq.mpr rfl

/-- A numeral that no digit follows is read as its number. -/
theorem number?_append {rest : List Char} (n : Nat)
    (hrest : rest.head?.any Char.isDigit = false) :
    number? ((toString n).toList ++ rest) = some (n, rest) := by
  have hdigits : ∀ d ∈ (toString n).toList, d.isDigit = true := fun _ => isDigit_of_mem_numeral
  have hnone : rest.takeWhile Char.isDigit = [] ∧ rest.dropWhile Char.isDigit = rest := by
    cases rest with
    | nil => exact ⟨rfl, rfl⟩
    | cons c rest =>
      have hc : ¬ c.isDigit = true := by simpa using hrest
      exact ⟨List.takeWhile_cons_of_neg hc, List.dropWhile_cons_of_neg hc⟩
  have hne : (toString n).toList ≠ [] := by
    rw [Nat.toString_eq_repr, Nat.toList_repr]
    exact Nat.toDigits_ne_nil
  rw [number?, List.takeWhile_append_of_pos hdigits, List.dropWhile_append_of_pos hdigits, hnone.1,
    hnone.2, List.append_nil]
  split
  · rename_i hnil
    exact absurd hnil hne
  · rw [Nat.toString_eq_repr, Nat.toList_repr, Nat.ofDigitChars_ten_toDigits]

end Text

/-- What a record says of guards. -/
inductive Notice where
  /-- A guard was made, and so many are active with it. -/
  | loaded (id depth : Nat)
  /-- A guard was dropped, and so many were released with it. -/
  | released (id count : Nat)
  deriving DecidableEq, Repr

namespace Notice

/-- The number of the guard that was made. -/
def loadedId? : Notice → Option Nat
  | loaded id _ => some id
  | released _ _ => none

/-- How many guards were released. -/
def count : Notice → Nat
  | loaded _ _ => 0
  | released _ count => count

/-- The notice that a message gives of guards. -/
def ofMessage? (message : String) : Option Notice :=
  (Text.after? "builtins " message.toList).bind fun cs =>
    (Text.number? cs).bind fun (id, cs) =>
      match Text.after? " loaded (depth " cs with
      | some cs => (Text.number? cs).map fun (depth, _) => loaded id depth
      | none =>
        (Text.after? " released (" cs).bind fun cs =>
          (Text.number? cs).map fun (count, _) => released id count

theorem ofMessage?_loadMessage (g : Guard) (depth : Nat) :
    ofMessage? (Action.loadMessage g depth) = some (.loaded g.id depth) := by
  unfold ofMessage? Action.loadMessage
  simp only [String.toList_append, List.append_assoc]
  rw [Text.after?_append, Option.bind_some, Text.number?_append _ rfl, Option.bind_some,
    Text.after?_append]
  dsimp only
  rw [Text.number?_append _ rfl]
  rfl

theorem ofMessage?_releaseMessage (g : Guard) (count : Nat) :
    ofMessage? (Action.releaseMessage g count) = some (.released g.id count) := by
  have hother (rest : List Char) :
      Text.after? " loaded (depth " (" released (".toList ++ rest) = none := rfl
  unfold ofMessage? Action.releaseMessage
  simp only [String.toList_append, List.append_assoc]
  rw [Text.after?_append, Option.bind_some, Text.number?_append _ rfl, Option.bind_some, hother]
  dsimp only
  rw [Text.after?_append, Option.bind_some, Text.number?_append _ rfl]
  rfl

end Notice

/-- The notice that a record gives of guards. -/
def LogRecord.notice? (r : LogRecord) : Option Notice :=
  Notice.ofMessage? r.message

/-! ## Ledgers -/

/-- The numbers of the guards that are active, oldest first, and of those that were released. -/
structure Ledger where
  active : List Nat
  released : List Nat
  deriving DecidableEq, Repr

namespace Ledger

/-- A ledger in which nothing is entered. -/
def empty : Ledger :=
  ⟨[], []⟩

/-- Enters a notice, if it fits. A guard that was made must add up to the depth that is told. Of the
guards that were released, which are the last ones, the first must be the one that is told. -/
def enter? (b : Ledger) : Notice → Option Ledger
  | .loaded id depth =>
    if depth = b.active.length + 1 then some { b with active := b.active ++ [id] } else none
  | .released id count =>
    let kept := b.active.length - count
    if count ≤ b.active.length ∧ (b.active.drop kept).head? = some id then
      some ⟨b.active.take kept, b.released ++ b.active.drop kept⟩
    else none

/-- Enters notices, one after the other, if they all fit. -/
def replay? (b : Ledger) (notices : List Notice) : Option Ledger :=
  notices.foldlM enter? b

variable {b b' b'' : Ledger} {n : Notice} {notices more : List Notice}

/-- What a notice must tell to fit: a guard that was made, with the new depth, or the last active
guards, by how many they are and the number of the first of them. -/
theorem enter?_eq_some_iff :
    b.enter? n = some b' ↔
      (∃ id, n = .loaded id (b.active.length + 1) ∧ b' = ⟨b.active ++ [id], b.released⟩) ∨
      ∃ kept id later, n = .released id (later.length + 1) ∧ b.active = kept ++ id :: later ∧
        b' = ⟨kept, b.released ++ id :: later⟩ := by
  constructor
  · intro h
    cases n with
    | loaded id depth =>
      obtain ⟨rfl, hb⟩ := Option.ite_none_right_eq_some.mp h
      exact .inl ⟨id, rfl, (Option.some.inj hb).symm⟩
    | released id count =>
      obtain ⟨⟨hle, hhead⟩, hb⟩ := Option.ite_none_right_eq_some.mp h
      obtain ⟨later, hlater⟩ := List.head?_eq_some_iff.mp hhead
      have hsplit := List.take_append_drop (b.active.length - count) b.active
      have hcount := congrArg List.length hlater
      rw [List.length_drop, List.length_cons] at hcount
      rw [hlater] at hsplit hb
      refine .inr ⟨_, id, later, ?_, hsplit.symm, (Option.some.inj hb).symm⟩
      rw [← hcount]
      congr
      omega
  · rintro (⟨id, rfl, rfl⟩ | ⟨kept, id, later, rfl, hactive, rfl⟩)
    · exact if_pos rfl
    · simp [enter?, hactive]

theorem replay?_cons (b : Ledger) (n : Notice) (notices : List Notice) :
    b.replay? (n :: notices) = (b.enter? n).bind (·.replay? notices) :=
  List.foldlM_cons

theorem replay?_append (h : b.replay? notices = some b') :
    b.replay? (notices ++ more) = b'.replay? more := by
  unfold replay? at h ⊢
  rw [List.foldlM_append, h]
  rfl

/-- **One notice.** The guard that was made is active, and what was released was active before. -/
theorem perm_of_enter? (h : b.enter? n = some b') :
    (b'.active ++ b'.released).Perm (b.active ++ b.released ++ n.loadedId?.toList) := by
  rcases enter?_eq_some_iff.mp h with ⟨id, rfl, rfl⟩ | ⟨kept, id, later, rfl, hactive, rfl⟩
  · show ((b.active ++ [id]) ++ b.released).Perm ((b.active ++ b.released) ++ [id])
    rw [List.append_assoc, List.append_assoc]
    exact List.perm_append_comm.append_left b.active
  · show (kept ++ (b.released ++ id :: later)).Perm (b.active ++ b.released ++ [])
    rw [hactive, List.append_nil, List.append_assoc]
    exact List.perm_append_comm.append_left kept

theorem length_released_of_enter? (h : b.enter? n = some b') :
    b'.released.length = b.released.length + n.count := by
  rcases enter?_eq_some_iff.mp h with ⟨id, rfl, rfl⟩ | ⟨kept, id, later, rfl, -, rfl⟩
  · rfl
  · exact List.length_append

/-- **Nothing is entered twice or lost.** Every guard that was made is active or was released. -/
theorem perm_of_replay? (h : b.replay? notices = some b') :
    (b'.active ++ b'.released).Perm
      (b.active ++ b.released ++ notices.filterMap Notice.loadedId?) := by
  induction notices generalizing b with
  | nil =>
    cases h
    rw [List.filterMap_nil, List.append_nil]
  | cons n notices ih =>
    rw [replay?_cons, Option.bind_eq_some_iff] at h
    obtain ⟨first, hfirst, hrest⟩ := h
    have hids : (n :: notices).filterMap Notice.loadedId? =
        n.loadedId?.toList ++ notices.filterMap Notice.loadedId? := by
      cases n <;> rfl
    rw [hids, ← List.append_assoc]
    exact (ih hrest).trans ((perm_of_enter? hfirst).append_right _)

theorem length_released_of_replay? (h : b.replay? notices = some b') :
    b'.released.length = b.released.length + (notices.map Notice.count).sum := by
  induction notices generalizing b with
  | nil =>
    cases h
    rfl
  | cons n notices ih =>
    rw [replay?_cons, Option.bind_eq_some_iff] at h
    obtain ⟨first, hfirst, hrest⟩ := h
    rw [ih hrest, length_released_of_enter? hfirst, List.map_cons, List.sum_cons, Nat.add_assoc]

end Ledger

/-! ## What a log is told -/

namespace LogSlot

variable {s : LogSlot} {l : Listener}

theorem records_emit (h : s.receiver = some l) (r : LogRecord) :
    (s.emit r).2.records = s.records ++ [r] := by
  unfold records
  rw [deliveries_emit, h, List.map_append]
  rfl

/-- A listener that fails on nothing goes on to receive records. -/
theorem receiver_emit (h : s.receiver = some l) (hl : l.Reliable) (r : LogRecord) :
    (s.emit r).2.receiver = some l := by
  obtain ⟨hbroken, hlistener⟩ := receiver_eq_some_iff.mp h
  rw [emit_of_taken hbroken hlistener (hl s.records r)]
  exact h

/-- A listener that fails on nothing receives all records. -/
theorem records_emitAll_of_receiver (h : s.receiver = some l) (hl : l.Reliable)
    (records : List LogRecord) : (s.emitAll records).records = s.records ++ records := by
  induction records generalizing s with
  | nil => simp
  | cons r records ih =>
    rw [emitAll_cons, ih (receiver_emit h hl r), records_emit h, List.append_assoc,
      List.singleton_append]

end LogSlot

namespace GuardStack

variable {s : GuardStack} {g : Guard}

/-- The numbers of the active guards, oldest first. -/
def ids (s : GuardStack) : List Nat :=
  s.active.map (·.id)

theorem active_release_of_released_eq_zero (h : s.released g = 0) :
    (s.release g).active = s.active :=
  List.takeWhile_eq_self_iff.mpr fun k hk => bne_iff_ne.mpr (released_eq_zero_iff.mp h k hk)

/-- A release that does something releases the last guards, from the one with the number on. -/
theorem exists_of_released_ne_zero (h : s.released g ≠ 0) :
    ∃ k later, s.active = (s.release g).active ++ k :: later ∧ k.id = g.id ∧
      s.released g = later.length + 1 := by
  rcases eq_takeWhile_or (·.id != g.id) s.active with hall | ⟨k, later, hsplit, hk⟩
  · have hlength := congrArg List.length hall
    rw [released, active_release] at h
    omega
  · have hlength := congrArg List.length hsplit
    rw [List.length_append, List.length_cons] at hlength
    refine ⟨k, later, hsplit, by simpa using hk, ?_⟩
    rw [released, active_release]
    omega

end GuardStack

namespace Thread

/-- Whether an operation makes, drops or forgets a guard. -/
def Op.isOnGuards : Op → Bool
  | .load _ | .drop _ | .forget _ => true
  | _ => false

/-- On the way from `s` to `s'` the listener `l` was told `notices`, which lead from the guards that
are active in `s` to those that are active in `s'`, and tell the guards that were made in between. -/
structure Told (l : Listener) (s s' : Thread) (notices : List Notice) : Prop where
  receiver : s'.host.log.receiver = some l
  records : ∃ records, s'.host.log.records = s.host.log.records ++ records ∧
    records.mapM LogRecord.notice? = some notices
  replayed : ∀ released, ∃ released',
    Ledger.replay? ⟨s.host.guards.ids, released⟩ notices = some ⟨s'.host.guards.ids, released'⟩
  loaded : List.range s'.host.guards.nextId =
    List.range s.host.guards.nextId ++ notices.filterMap Notice.loadedId?

namespace Told

variable {l : Listener} {s s' s'' : Thread} {notices more : List Notice}

/-- Nothing is told when neither the log nor the guards change. -/
theorem nil (hr : s.host.log.receiver = some l) (hlog : s'.host.log = s.host.log)
    (hids : s'.host.guards.ids = s.host.guards.ids)
    (hnext : s'.host.guards.nextId = s.host.guards.nextId) : Told l s s' [] where
  receiver := by rw [hlog, hr]
  records := ⟨[], by rw [hlog, List.append_nil], rfl⟩
  replayed released := ⟨released, by rw [hids]; rfl⟩
  loaded := by rw [hnext, List.filterMap_nil, List.append_nil]

theorem trans (h : Told l s s' notices) (h' : Told l s' s'' more) :
    Told l s s'' (notices ++ more) where
  receiver := h'.receiver
  records := by
    obtain ⟨first, hfirst, hnotices⟩ := h.records
    obtain ⟨rest, hrest, hmore⟩ := h'.records
    refine ⟨first ++ rest, by rw [hrest, hfirst, List.append_assoc], ?_⟩
    rw [List.mapM_append, hnotices, hmore]
    rfl
  replayed released := by
    obtain ⟨released', hfirst⟩ := h.replayed released
    obtain ⟨released'', hrest⟩ := h'.replayed released'
    exact ⟨released'', by rw [Ledger.replay?_append hfirst, hrest]⟩
  loaded := by rw [h'.loaded, h.loaded, List.filterMap_append, List.append_assoc]

end Told

variable {s : Thread} {l : Listener} {op : Op} {ops : List Op}

theorem notice?_loadRecord (h : Host) (cache : CommandCache) :
    (h.loadRecord cache).notice? = some (.loaded h.guards.nextId (h.guards.ids.length + 1)) := by
  have hdepth : (h.guards.push cache).active.length = h.guards.ids.length + 1 := by
    simp [GuardStack.ids]
  rw [← hdepth]
  exact Notice.ofMessage?_loadMessage _ _

theorem notice?_releaseRecord (h : Host) (g : Guard) :
    (h.releaseRecord g).notice? = some (.released g.id (h.guards.released g)) :=
  Notice.ofMessage?_releaseMessage _ _

/-- One record that is emitted is told as one notice. -/
theorem Told.emit {s s' : Thread} {r : LogRecord} {n : Notice}
    (hr : s.host.log.receiver = some l) (hl : l.Reliable)
    (hlog : s'.host.log = (s.host.log.emit r).2) (hn : r.notice? = some n)
    (hids : ∀ released, ∃ released',
      Ledger.enter? ⟨s.host.guards.ids, released⟩ n = some ⟨s'.host.guards.ids, released'⟩)
    (hnext : List.range s'.host.guards.nextId =
      List.range s.host.guards.nextId ++ n.loadedId?.toList) : Told l s s' [n] where
  receiver := by rw [hlog, LogSlot.receiver_emit hr hl]
  records := by
    refine ⟨[r], by rw [hlog, LogSlot.records_emit hr], ?_⟩
    rw [List.mapM_cons, hn]
    rfl
  replayed released := by
    obtain ⟨released', henter⟩ := hids released
    exact ⟨released', by rw [Ledger.replay?_cons, henter]; rfl⟩
  loaded := by
    rw [hnext]
    cases n <;> rfl

/-- A new guard is told with its number and the new depth. -/
theorem told_load (hr : s.host.log.receiver = some l) (hl : l.Reliable) (cache : CommandCache) :
    Told l s (s.step (.load cache)).2
      [.loaded s.host.guards.nextId (s.host.guards.ids.length + 1)] := by
  rw [step_load]
  refine .emit hr hl rfl (notice?_loadRecord s.host cache) (fun released => ⟨released, ?_⟩)
    List.range_succ
  refine Ledger.enter?_eq_some_iff.mpr (.inl ⟨_, rfl, ?_⟩)
  show Ledger.mk (List.map _ _) _ = _
  rw [GuardStack.active_push, List.map_append]
  rfl

/-- A drop is told by the number of the guard and how many were released with it, and not at all if
that guard is not active. -/
theorem told_drop (hr : s.host.log.receiver = some l) (hl : l.Reliable) (id : Nat) :
    ∃ notices, Told l s (s.step (.drop id)).2 notices := by
  cases hg : s.find? id with
  | none =>
    have hstep : s.step (.drop id) = (.ok (), s) := by simp only [step, hg]
    rw [hstep]
    exact ⟨[], .nil hr rfl rfl rfl⟩
  | some g =>
    have hhost := host_step_drop hg
    rw [Action.drop_apply] at hhost
    by_cases hreleased : s.host.guards.released g = 0
    · rw [if_pos hreleased] at hhost
      refine ⟨[], .nil hr (by rw [hhost]) ?_ (by rw [hhost]; rfl)⟩
      rw [hhost]
      exact congrArg (List.map (·.id)) (GuardStack.active_release_of_released_eq_zero hreleased)
    · rw [if_neg hreleased] at hhost
      have hlog : (s.step (.drop id)).2.host.log = (s.host.log.emit (s.host.releaseRecord g)).2 := by
        rw [hhost]
      obtain ⟨k, later, hactive, hid, hcount⟩ := GuardStack.exists_of_released_ne_zero hreleased
      refine ⟨_, .emit hr hl hlog (notice?_releaseRecord s.host g) (fun released => ?_) ?_⟩
      · refine ⟨released ++ k.id :: later.map (·.id), Ledger.enter?_eq_some_iff.mpr
          (.inr ⟨_, k.id, later.map (·.id), ?_, ?_, by rw [hhost]⟩)⟩
        · rw [hid, hcount, List.length_map]
        · show List.map _ _ = _
          rw [hactive, List.map_append]
          rfl
      · rw [hhost]
        exact (List.append_nil _).symm

/-- **One step.** Every operation on guards is told in notices. -/
theorem told_step (hr : s.host.log.receiver = some l) (hl : l.Reliable)
    (hop : op.isOnGuards = true) : ∃ notices, Told l s (s.step op).2 notices := by
  cases op with
  | load cache => exact ⟨_, told_load hr hl cache⟩
  | drop id => exact told_drop hr hl id
  | forget id => exact ⟨[], .nil hr rfl rfl rfl⟩
  | _ => cases hop

/-- **A run.** What is told of a run is what is told of its operations, one after the other. -/
theorem told_run (hr : s.host.log.receiver = some l) (hl : l.Reliable)
    (hops : ∀ op ∈ ops, op.isOnGuards = true) : ∃ notices, Told l s (s.run ops) notices := by
  induction ops generalizing s with
  | nil => exact ⟨[], .nil hr rfl rfl rfl⟩
  | cons op ops ih =>
    obtain ⟨hop, hops⟩ := List.forall_mem_cons.mp hops
    obtain ⟨first, hfirst⟩ := told_step hr hl hop
    obtain ⟨rest, hrest⟩ := ih hfirst.receiver hops
    exact ⟨first ++ rest, hfirst.trans hrest⟩

/-- The notices of the records that `s` has and `log` has not. -/
def noticesSince? (log : LogSlot) (s : Thread) : Option (List Notice) :=
  (s.host.log.records.drop log.records.length).mapM LogRecord.notice?

theorem Told.noticesSince?_eq {s s' : Thread} {notices : List Notice} (h : Told l s s' notices) :
    noticesSince? s.host.log s' = some notices := by
  obtain ⟨records, hrecords, hnotices⟩ := h.records
  rw [noticesSince?, hrecords, List.drop_left, hnotices]

variable {files : FileTree} {log : LogSlot}

/-- What was told of a thread from the beginning fills a ledger with each number once. -/
theorem Told.exists_replay? {notices : List Notice} (h : Told l (fresh files log) s notices) :
    ∃ released, Ledger.empty.replay? notices = some ⟨s.host.guards.ids, released⟩ ∧
      notices.filterMap Notice.loadedId? = List.range s.host.guards.nextId ∧
      released.Nodup ∧
      (notices.filterMap Notice.loadedId?).length =
        (notices.map Notice.count).sum + s.host.guards.active.length := by
  obtain ⟨released, hreplay⟩ := h.replayed []
  have hreplay : Ledger.empty.replay? notices = some ⟨s.host.guards.ids, released⟩ := hreplay
  have hloaded : notices.filterMap Notice.loadedId? = List.range s.host.guards.nextId :=
    h.loaded.symm
  have hperm : (s.host.guards.ids ++ released).Perm (notices.filterMap Notice.loadedId?) :=
    Ledger.perm_of_replay? hreplay
  have hcount : released.length = 0 + (notices.map Notice.count).sum :=
    Ledger.length_released_of_replay? hreplay
  have hlength := hperm.length_eq
  rw [List.length_append, GuardStack.ids, List.length_map] at hlength
  refine ⟨released, hreplay, hloaded, ?_, by omega⟩
  rw [hloaded] at hperm
  exact (List.nodup_append.mp (hperm.nodup_iff.mpr List.nodup_range)).2.1

/-- **Records tell the guards.** Let a listener that fails on nothing receive the records of a thread
that makes, drops and forgets guards in any order. After each operation the records so far can be
read as notices, which can be replayed: each depth and each count is that of the ledger, and the
ledger ends up with the numbers of the active guards. Each number was told once as new and is released
at most once, and as many are active as were made and not released. The drop of a guard that is not
active is not told. -/
theorem ledger_correct (files : FileTree) (hset : log.receiver = some l) (hl : l.Reliable)
    (hops : ∀ op ∈ ops, op.isOnGuards = true) :
    ∃ notices, noticesSince? log ((fresh files log).run ops) = some notices ∧
      ∀ before, before <+: ops →
        let s := (fresh files log).run before
        ∃ earlier released, earlier <+: notices ∧ noticesSince? log s = some earlier ∧
          Ledger.empty.replay? earlier = some ⟨s.host.guards.active.map (·.id), released⟩ ∧
          earlier.filterMap Notice.loadedId? = List.range s.host.guards.nextId ∧
          released.Nodup ∧
          (earlier.filterMap Notice.loadedId?).length =
            (earlier.map Notice.count).sum + s.host.guards.active.length ∧
          ∀ d, (∀ g ∈ s.host.guards.active, g.id ≠ d) →
            (s.step (.drop d)).2.host.log = s.host.log := by
  obtain ⟨notices, htold⟩ := told_run (s := fresh files log) hset hl hops
  refine ⟨notices, htold.noticesSince?_eq, fun before hbefore => ?_⟩
  obtain ⟨rest, rfl⟩ := hbefore
  obtain ⟨hfirst, hrest⟩ := List.forall_mem_append.mp hops
  obtain ⟨earlier, hearlier⟩ := told_run (s := fresh files log) hset hl hfirst
  obtain ⟨later, hlater⟩ := told_run hearlier.receiver hl hrest
  have hwhole := (hearlier.trans hlater).noticesSince?_eq
  rw [← run_append, htold.noticesSince?_eq, Option.some.injEq] at hwhole
  obtain ⟨released, hreplay, hloaded, hnodup, hlength⟩ := hearlier.exists_replay?
  exact ⟨earlier, released, ⟨later, hwhole.symm⟩, hearlier.noticesSince?_eq, hreplay, hloaded, hnodup,
    hlength, fun d hd => congrArg Host.log (step_drop_of_inactive hd).2⟩

/-- A log on which every record is kept. -/
def collecting : LogSlot :=
  LogSlot.empty.set (.collector none .debug none)

/-- A guard that was released with another one is dropped, and this is not told. -/
theorem ledger_correct_of_staleDrop :
    noticesSince? collecting ((fresh .empty collecting).run staleDrop) =
      some [.loaded 0 1, .loaded 1 2, .loaded 2 3, .released 1 2, .loaded 3 2] ∧
    ∃ released, Ledger.empty.replay?
      [.loaded 0 1, .loaded 1 2, .loaded 2 3, .released 1 2, .loaded 3 2] =
        some ⟨[0, 3], released⟩ := by
  have htold : noticesSince? collecting ((fresh .empty collecting).run staleDrop) =
      some [.loaded 0 1, .loaded 1 2, .loaded 2 3, .released 1 2, .loaded 3 2] := by
    decide +kernel
  have hset : collecting.receiver = some (.collector none .debug none) := rfl
  have hops : ∀ op ∈ staleDrop, op.isOnGuards = true := by decide
  obtain ⟨_, -, hbefore⟩ :=
    ledger_correct .empty hset (Listener.collector_reliable none .debug) hops
  obtain ⟨earlier, released, -, hearlier, hreplay, -⟩ := hbefore staleDrop List.prefix_rfl
  obtain rfl := Option.some.inj (htold.symm.trans hearlier)
  exact ⟨htold, released, hreplay⟩

end Thread

end HighlightCheck
