import Mathlib.Order.Bounds.Basic
import RedemptionWatch.Proofs.Plan.Interleaving
import RedemptionWatch.Proofs.Store.Refinement

/-!
# Upserts that come at the same time

Any number of clients upsert a record each, on the same messages or on others, and their statements
come in any order (`SqlStore.contend`). A statement is one step, as a database carries it out as a
whole; nothing is said of databases that do not. A program that makes several calls, one after the
other, is as many clients as it makes calls, whose turns do not mix.

Between the refusal of a write and the read that explains it, other clients may have written the
row. They have not lowered its rank, so the read finds a status above the one that was refused, and
the write is never tried again. A call hence has four phases (`UpsertPhase`), and in a turn it moves
from one to the next (`UpsertPhase.Moves`). What follows for any number of turns is
`SqlStore.contention_converges`.

The clients begin with a store that is ranked. Every store is that a program comes upon, whatever
was asked of it before (`SqlStore.Ranked.serveAll`).
-/

namespace RedemptionWatch

open SqlStore

/-- How far an upsert has come. -/
inductive UpsertPhase where
  | ready
  /-- The write was refused, and the stored status is not yet read. -/
  | refused
  | written
  | rejected (reason : Rejection)

namespace UpsertPhase

variable {s s' : SqlStore} {r : Record} {φ φ' : UpsertPhase} {key : String} {row : RecordRow}

/-- What is left to do. -/
def left (r : Record) : UpsertPhase → Plan interface (Except StoreError UpsertOutcome)
  | ready => .ask (P := interface) (.tryUpsert r) (afterWrite r 2)
  | refused => .ask (P := interface) (.status r.messageId) (afterStatus r 2)
  | written => .done (.ok .written)
  | rejected reason => .done (.ok (.rejected reason))

/-- The statements that were made. -/
def statements (r : Record) : UpsertPhase → List interface.Request
  | ready => []
  | refused | written => [.tryUpsert r]
  | rejected _ => [.tryUpsert r, .status r.messageId]

/-- What is known of the store. -/
def Holds (s : SqlStore) (r : Record) : UpsertPhase → Prop
  | ready => True
  | refused | rejected _ => s.Outranks r
  | written => s.Covers r

/-- What an upsert of `r` does in a turn: the store and the phase before, and those after. -/
inductive Moves (r : Record) : SqlStore → UpsertPhase → SqlStore → UpsertPhase → Prop where
  | write {s : SqlStore} (rises : s.Rises (s.write r)) : Moves r s ready (s.write r) written
  | refuse {s : SqlStore} (above : s.Outranks r) : Moves r s ready s refused
  | explain {s : SqlStore} {stored : Status} {reason : Rejection}
      (read : s.status? r.messageId = .ok (some stored)) (below : r.status.rank < stored.rank)
      (explains : Status.reconcile (some stored) r.status = .error reason) :
      Moves r s refused s (rejected reason)
  | rest {s : SqlStore} {φ : UpsertPhase} {outcome : UpsertOutcome}
      (settled : φ.left r = .done (.ok outcome)) : Moves r s φ s φ

/-- A call has its outcome, or it has made fewer than two statements. -/
theorem settled_or (φ : UpsertPhase) (r : Record) :
    (∃ outcome, φ.left r = .done (.ok outcome)) ∨
      (∀ answer, φ.left r ≠ .done answer) ∧ (φ.statements r).length < 2 := by
  cases φ with
  | ready => exact .inr ⟨fun _ h => (nomatch h), Nat.zero_lt_two⟩
  | refused => exact .inr ⟨fun _ h => (nomatch h), Nat.one_lt_two⟩
  | written => exact .inl ⟨.written, rfl⟩
  | rejected reason => exact .inl ⟨.rejected reason, rfl⟩

theorem statements_isPrefix (φ : UpsertPhase) (r : Record) :
    φ.statements r <+: [Statement.tryUpsert r, .status r.messageId] := by
  cases φ with
  | ready => exact List.nil_prefix
  | refused | written => exact List.prefix_append [Statement.tryUpsert r] _
  | rejected _ => exact List.prefix_rfl

theorem Holds.mono (h : φ.Holds s r) (hs : s.Rises s') : φ.Holds s' r := by
  cases φ with
  | ready => trivial
  | refused | rejected _ => exact Outranks.mono h hs
  | written => exact Covers.mono h hs

theorem Holds.covers (h : φ.Holds s r) (hφ : φ ≠ ready) : s.Covers r := by
  cases φ with
  | ready => exact absurd rfl hφ
  | refused | rejected _ => exact Outranks.covers h
  | written => exact h

namespace Moves

theorem rises (h : Moves r s φ s' φ') : s.Rises s' := by
  cases h with
  | write rises => exact rises
  | refuse _ | explain _ _ _ | rest _ => exact .refl s

theorem ranked (h : Moves r s φ s' φ') (hs : s.Ranked) : s'.Ranked := by
  cases h with
  | write _ => exact hs.write r
  | refuse _ | explain _ _ _ | rest _ => exact hs

theorem holds (h : Moves r s φ s' φ') (hφ : φ.Holds s r) : φ'.Holds s' r := by
  cases h with
  | write _ => exact covers_write s r
  | refuse above => exact above
  | explain _ _ _ => exact hφ
  | rest _ => exact hφ

theorem statements_eq (h : Moves r s φ s' φ') :
    φ'.statements r = φ.statements r ++ (φ.left r).next?.toList := by
  cases h with
  | write _ | refuse _ | explain _ _ _ => rfl
  | rest settled => simp [settled, Plan.next?]

/-- A row is that of before or the one of the record. -/
theorem row_cases (h : Moves r s φ s' φ') (hrow : s'.records[key]? = some row) :
    s.records[key]? = some row ∨ r.messageId.text = key ∧ row = .ofRecord r := by
  cases h with
  | write _ =>
    rw [getElem?_write] at hrow
    split_ifs at hrow with hid
    · exact .inr ⟨hid, (Option.some.inj hrow).symm⟩
    · exact .inl hrow
  | refuse _ | explain _ _ _ | rest _ => exact .inl hrow

end Moves

end UpsertPhase

namespace SqlStore

open UpsertPhase

variable {ι : Type} [DecidableEq ι]

/-- The store answers the statements of its clients. -/
def answers : (q : interface.Request) → StateM SqlStore (interface.Answer q) :=
  execute

/-- The tables, and what is left of the upsert of each client. -/
abbrev Upserts (ι : Type) := Clients interface SqlStore ι (Except StoreError UpsertOutcome)

/-- Each client is about to upsert its record. -/
def upserting (s : SqlStore) (records : ι → Record) : Upserts ι where
  state := s
  left i := upsertPlan (records i)

/-- The store and the clients after these turns. -/
def contend (s : SqlStore) (records : ι → Record) (turns : List ι) : Upserts ι :=
  (upserting s records).run answers turns

/-! ## One turn -/

/-- In a turn a call moves from its phase to the next. -/
theorem exists_moves {c : Upserts ι} {i : ι} {r : Record} {φ : UpsertPhase}
    (hs : c.state.Ranked) (hleft : c.left i = φ.left r) (hφ : φ.Holds c.state r) :
    ∃ φ', Moves r c.state φ (c.turn answers i).state φ' ∧
      (c.turn answers i).left i = φ'.left r := by
  cases φ with
  | ready =>
    have hstate : (c.turn answers i).state = (c.state.tryUpsert r).2 := Clients.state_turn hleft
    have hnext : (c.turn answers i).left i = afterWrite r 2 (c.state.tryUpsert r).1 :=
      Clients.left_turn_self hleft
    rw [hstate, hnext]
    obtain ⟨htry, hrises⟩ | ⟨htry, habove⟩ := tryUpsert_cases c.state r
    · rw [htry]
      exact ⟨written, .write hrises, rfl⟩
    · rw [htry]
      exact ⟨refused, .refuse habove, rfl⟩
  | refused =>
    have hstate : (c.turn answers i).state = c.state := Clients.state_turn hleft
    have hnext : (c.turn answers i).left i = afterStatus r 2 (c.state.status? r.messageId) :=
      Clients.left_turn_self hleft
    -- The row that is read need not be the one that refused the write, but is no lower.
    obtain ⟨stored, hread, hbelow⟩ := hs.status?_of_outranks hφ
    obtain ⟨reason, hreason⟩ := Status.exists_reconcile_eq_error hbelow
    rw [hread, afterStatus, hreason] at hnext
    rw [hstate, hnext]
    exact ⟨rejected reason, .explain hread hbelow hreason, rfl⟩
  | written =>
    rw [Clients.turn_of_done hleft]
    exact ⟨written, .rest rfl, hleft⟩
  | rejected reason =>
    rw [Clients.turn_of_done hleft]
    exact ⟨rejected reason, .rest rfl, hleft⟩

/-! ## Any number of turns -/

variable {s : SqlStore} {records : ι → Record} {turns : List ι} {i : ι}

theorem contend_snoc (s : SqlStore) (records : ι → Record) (turns : List ι) (j : ι) :
    contend s records (turns ++ [j]) = (contend s records turns).turn answers j :=
  Clients.run_snoc ..

/-- The store is ranked, and of every call is left, made and known what its phase says. -/
structure Underway (s : SqlStore) (records : ι → Record) (turns : List ι) : Prop where
  ranked : (contend s records turns).state.Ranked
  phase (i : ι) : ∃ φ : UpsertPhase,
    (contend s records turns).left i = φ.left (records i) ∧
    (upserting s records).requests answers i turns = φ.statements (records i) ∧
    φ.Holds (contend s records turns).state (records i)

namespace Underway

theorem nil (hs : s.Ranked) : Underway s records [] where
  ranked := hs
  phase _ := ⟨ready, rfl, rfl, trivial⟩

theorem snoc (h : Underway s records turns) (j : ι) : Underway s records (turns ++ [j]) := by
  obtain ⟨φ, hleft, hstatements, hφ⟩ := h.phase j
  obtain ⟨φ', hmoves, hnext⟩ := exists_moves h.ranked hleft hφ
  constructor
  · rw [contend_snoc]
    exact hmoves.ranked h.ranked
  · intro i
    rw [contend_snoc, Clients.requests_snoc, ← contend]
    by_cases hij : j = i
    · subst hij
      refine ⟨φ', hnext, ?_, hmoves.holds hφ⟩
      rw [if_pos rfl, hstatements, hleft, hmoves.statements_eq]
    · -- The turn of another client leaves a call in its phase, as the store has only risen.
      obtain ⟨ψ, hleft', hstatements', hψ⟩ := h.phase i
      refine ⟨ψ, ?_, ?_, hψ.mono hmoves.rises⟩
      · rw [Clients.left_turn_of_ne (Ne.symm hij), hleft']
      · rw [if_neg hij, List.append_nil, hstatements']

/-- In its turn a call moves from a phase to another. -/
theorem moves (h : Underway s records turns) (j : ι) : ∃ φ φ' : UpsertPhase,
    (contend s records turns).left j = φ.left (records j) ∧
    (contend s records (turns ++ [j])).left j = φ'.left (records j) ∧
    Moves (records j) (contend s records turns).state φ
      (contend s records (turns ++ [j])).state φ' := by
  obtain ⟨φ, hleft, -, hφ⟩ := h.phase j
  obtain ⟨φ', hmoves, hnext⟩ := exists_moves h.ranked hleft hφ
  rw [contend_snoc]
  exact ⟨φ, φ', hleft, hnext, hmoves⟩

end Underway

theorem underway (hs : s.Ranked) (records : ι → Record) (turns : List ι) :
    Underway s records turns := by
  induction turns using List.reverseRecOn with
  | nil => exact .nil hs
  | append_singleton turns j ih => exact ih.snoc j

/-- The store only rises. -/
theorem rises_contend (hs : s.Ranked) (records : ι → Record) (before after : List ι) :
    (contend s records before).state.Rises (contend s records (before ++ after)).state := by
  induction after using List.reverseRecOn with
  | nil =>
    rw [List.append_nil]
    exact .refl _
  | append_singleton after j ih =>
    obtain ⟨φ, φ', -, -, hmoves⟩ := (underway hs records (before ++ after)).moves j
    rw [← List.append_assoc]
    exact ih.trans hmoves.rises

/-- A row is that of the beginning or the one of a record. -/
theorem row_contend (hs : s.Ranked) {key : String} {row : RecordRow}
    (hrow : (contend s records turns).state.records[key]? = some row) :
    s.records[key]? = some row ∨
      ∃ i, (records i).messageId.text = key ∧ row = .ofRecord (records i) := by
  induction turns using List.reverseRecOn with
  | nil => exact .inl hrow
  | append_singleton turns j ih =>
    obtain ⟨φ, φ', -, -, hmoves⟩ := (underway hs records turns).moves j
    obtain hbefore | ⟨hkey, hrow'⟩ := hmoves.row_cases hrow
    · exact ih hbefore
    · exact .inr ⟨j, hkey, hrow'⟩

/-! ## What the clients are told -/

/-- A call that has come to its end came to it in one of its turns. -/
theorem exists_settling (hs : s.Ranked) {answer : Except StoreError UpsertOutcome}
    (h : (contend s records turns).left i = .done answer) :
    ∃ before after φ φ', turns = before ++ i :: after ∧
      (contend s records before).left i = φ.left (records i) ∧ φ.left (records i) ≠ .done answer ∧
      φ'.left (records i) = .done answer ∧
      Moves (records i) (contend s records before).state φ
        (contend s records (before ++ [i])).state φ' := by
  have hstart : (upserting s records).left i ≠ .done answer := by
    intro hdone
    cases hdone
  obtain ⟨before, after, hturns, hbefore, hafter⟩ :=
    Clients.exists_turn (p := (· = .done answer)) hstart h
  obtain ⟨φ, φ', hleft, hleft', hmoves⟩ := (underway hs records before).moves i
  rw [contend_snoc] at hleft'
  refine ⟨before, after, φ, φ', hturns, hleft, ?_, ?_, hmoves⟩
  · rw [← hleft]
    exact hbefore
  · rw [← hleft']
    exact hafter

/-- A client that is told that its record was written has written it in one of its turns. -/
theorem exists_written (hs : s.Ranked)
    (h : (contend s records turns).left i = .done (.ok .written)) :
    ∃ before after, turns = before ++ i :: after ∧
      ((contend s records before).left i).next? = some (.tryUpsert (records i)) ∧
      (contend s records (before ++ [i])).state =
        (contend s records before).state.write (records i) := by
  obtain ⟨before, after, φ, φ', hturns, hleft, hne, hdone, hmoves⟩ := exists_settling hs h
  refine ⟨before, after, hturns, ?_⟩
  rw [hleft]
  generalize (contend s records before).state = t at hmoves
  generalize (contend s records (before ++ [i])).state = t' at hmoves
  cases hmoves with
  | write _ => exact ⟨rfl, rfl⟩
  | refuse _ | explain _ _ _ => cases hdone
  | rest _ => exact absurd hdone hne

/-- A client that is told that its record was rejected has read a higher status in one of its
turns. -/
theorem exists_rejected (hs : s.Ranked) {reason : Rejection}
    (h : (contend s records turns).left i = .done (.ok (.rejected reason))) :
    ∃ before after stored, turns = before ++ i :: after ∧
      ((contend s records before).left i).next? = some (.status (records i).messageId) ∧
      (contend s records before).state.status? (records i).messageId = .ok (some stored) ∧
      (records i).status.rank < stored.rank ∧
      Status.reconcile (some stored) (records i).status = .error reason := by
  obtain ⟨before, after, φ, φ', hturns, hleft, hne, hdone, hmoves⟩ := exists_settling hs h
  have hnext := congrArg Plan.next? hleft
  generalize ht : (contend s records before).state = t at hmoves
  generalize (contend s records (before ++ [i])).state = t' at hmoves
  cases hmoves with
  | write _ | refuse _ => cases hdone
  | explain read below explains =>
    cases hdone
    exact ⟨before, after, _, hturns, hnext, ht ▸ read, below, explains⟩
  | rest _ => exact absurd hdone hne

/-- A client that has had two turns has its answer. -/
theorem exists_outcome (hs : s.Ranked) (h : 2 ≤ turns.count i) :
    ∃ outcome, (contend s records turns).left i = .done (.ok outcome) := by
  obtain ⟨φ, hleft, hstatements, -⟩ := (underway hs records turns).phase i
  rw [hleft]
  obtain hdone | ⟨hφ, hlength⟩ := φ.settled_or (records i)
  · exact hdone
  · have hcount : ((upserting s records).requests answers i turns).length = turns.count i :=
      Clients.length_requests fun answer hdone => hφ answer (hleft.symm.trans hdone)
    rw [hstatements] at hcount
    omega

/-! ## Where the statuses end -/

/-- The ranks that were offered for a message: the one of its stored status and those of records. -/
def offeredRanks (s : SqlStore) (records : ι → Record) (id : MessageId) : Set Nat :=
  {rank | (∃ stored, s.status? id = .ok (some stored) ∧ stored.rank = rank) ∨
    ∃ i, (records i).messageId = id ∧ (records i).status.rank = rank}

/-- A stored rank was offered. -/
theorem rank_mem_offeredRanks (hs : s.Ranked) {id : MessageId} {status : Status}
    (h : (contend s records turns).state.status? id = .ok (some status)) :
    status.rank ∈ offeredRanks s records id := by
  obtain ⟨row, hrow, hrank⟩ := (underway hs records turns).ranked.status?_eq_some_iff.mp h
  obtain hstart | ⟨i, hid, rfl⟩ := row_contend hs hrow
  · exact .inl ⟨status, hs.status?_eq_some_iff.mpr ⟨row, hstart, hrank⟩, rfl⟩
  · rw [RecordRow.toInt_statusRank_ofRecord] at hrank
    exact .inr ⟨i, MessageId.text_inj.mp hid, Int.ofNat_inj.mp hrank⟩

/-- Once all calls have returned, no higher rank was offered than the one that is stored. -/
theorem exists_le_of_mem_offeredRanks (hs : s.Ranked)
    (hall : ∀ i, ∃ answer, (contend s records turns).left i = .done answer) {id : MessageId}
    {rank : Nat} (h : rank ∈ offeredRanks s records id) :
    ∃ status, (contend s records turns).state.status? id = .ok (some status) ∧
      rank ≤ status.rank := by
  have hranked := (underway hs records turns).ranked
  obtain ⟨stored, hstored, rfl⟩ | ⟨i, rfl, rfl⟩ := h
  · exact (rises_contend hs records [] turns).status? hs hranked hstored
  · obtain ⟨φ, hleft, -, hφ⟩ := (underway hs records turns).phase i
    obtain ⟨answer, hdone⟩ := hall i
    refine hranked.status?_of_covers (hφ.covers ?_)
    rintro rfl
    rw [hleft] at hdone
    cases hdone

theorem status?_contend_eq_some_iff (hs : s.Ranked)
    (hall : ∀ i, ∃ answer, (contend s records turns).left i = .done answer) (id : MessageId)
    (status : Status) :
    (contend s records turns).state.status? id = .ok (some status) ↔
      IsGreatest (offeredRanks s records id) status.rank := by
  constructor
  · intro h
    refine ⟨rank_mem_offeredRanks hs h, fun rank hrank => ?_⟩
    obtain ⟨status', hstatus', hle⟩ := exists_le_of_mem_offeredRanks hs hall hrank
    rw [h] at hstatus'
    obtain rfl : status = status' := Option.some.inj (Except.ok.inj hstatus')
    exact hle
  · rintro ⟨hmem, hgreatest⟩
    obtain ⟨status', hstatus', hle⟩ := exists_le_of_mem_offeredRanks hs hall hmem
    have hge := hgreatest (rank_mem_offeredRanks hs hstatus')
    rw [hstatus', Status.rank_injective (le_antisymm hge hle)]

theorem status?_contend_eq_none_iff (hs : s.Ranked)
    (hall : ∀ i, ∃ answer, (contend s records turns).left i = .done answer) (id : MessageId) :
    (contend s records turns).state.status? id = .ok none ↔ offeredRanks s records id = ∅ := by
  constructor
  · intro h
    refine Set.eq_empty_of_forall_notMem fun rank hrank => ?_
    obtain ⟨status, hstatus, -⟩ := exists_le_of_mem_offeredRanks hs hall hrank
    rw [h] at hstatus
    cases hstatus
  · intro h
    cases hrow : (contend s records turns).state.records[id.text]? with
    | none => simp [status?, hrow]
    | some row =>
      obtain ⟨status, hstatus, -⟩ := (underway hs records turns).ranked.exists_status? hrow
      have hmem := rank_mem_offeredRanks hs hstatus
      rw [h] at hmem
      exact absurd hmem (Set.notMem_empty _)

/-! ## Calls of one client -/

/-- A client that is left alone leaves a ranked store. -/
theorem Ranked.upsert (h : s.Ranked) (r : Record) : (s.upsert r).2.Ranked := by
  have halone : (upserting s fun _ : Unit => r).left () = upsertPlan r := rfl
  obtain ⟨n, hrun⟩ := Clients.exists_run_alone (upsertPlan r) halone
  have hranked := (underway h (fun _ => r) (List.replicate n ())).ranked
  rw [contend, hrun] at hranked
  exact hranked

theorem Ranked.serve (h : s.Ranked) (c : StoreCall) : (s.serve c).2.Ranked := by
  cases c with
  | upsert r => exact h.upsert r
  | status id | record id | updateCursor chain block time | currentBlock chain fallback => exact h

/-- Whatever is asked of the tables, they stay ranked. -/
theorem Ranked.serveAll (h : s.Ranked) (calls : List StoreCall) :
    (serveAll SqlStore.serve calls s).2.Ranked := by
  induction calls generalizing s with
  | nil => exact h
  | cons c rest ih => exact ih (h.serve c)

/-! ## The whole of it -/

/-- **Contention.** Any number of clients upsert a record each, their statements in any order.
* The column of ranks stays in step with the statuses, and no row goes away or has its rank lowered.
* A client that is told that its record was written has written it in one of its turns.
* A client that is told that its record was rejected has read a higher status in one of its turns,
  and the reason is the one for that status.
* Once all calls have returned, a message has the status of the highest rank of all that were
  offered for it, and none if none was.
* A call makes at most two statements, the write and then the read; it has its answer after two
  turns, and the answer is always an outcome. -/
theorem contention_converges (hs : s.Ranked) (records : ι → Record) (turns : List ι) :
    ((contend s records turns).state.Ranked ∧ ∀ before after, turns = before ++ after →
      (contend s records before).state.Rises (contend s records turns).state) ∧
    (∀ i, (contend s records turns).left i = .done (.ok .written) →
      ∃ before after, turns = before ++ i :: after ∧
        ((contend s records before).left i).next? = some (.tryUpsert (records i)) ∧
        (contend s records (before ++ [i])).state =
          (contend s records before).state.write (records i)) ∧
    (∀ i reason, (contend s records turns).left i = .done (.ok (.rejected reason)) →
      ∃ before after stored, turns = before ++ i :: after ∧
        ((contend s records before).left i).next? = some (.status (records i).messageId) ∧
        (contend s records before).state.status? (records i).messageId = .ok (some stored) ∧
        (records i).status.rank < stored.rank ∧
        Status.reconcile (some stored) (records i).status = .error reason) ∧
    ((∀ i, ∃ answer, (contend s records turns).left i = .done answer) → ∀ id,
      (∀ status, (contend s records turns).state.status? id = .ok (some status) ↔
        IsGreatest (offeredRanks s records id) status.rank) ∧
      ((contend s records turns).state.status? id = .ok none ↔
        offeredRanks s records id = ∅)) ∧
    (∀ i, (upserting s records).requests answers i turns <+:
      [Statement.tryUpsert (records i), .status (records i).messageId]) ∧
    (∀ i, 2 ≤ turns.count i →
      ∃ outcome, (contend s records turns).left i = .done (.ok outcome)) ∧
    (∀ i answer, (contend s records turns).left i = .done answer →
      ∃ outcome, answer = .ok outcome) := by
  have hunderway := underway hs records turns
  refine ⟨⟨hunderway.ranked, ?_⟩, fun i => exists_written hs, fun i reason => exists_rejected hs,
    fun hall id => ⟨status?_contend_eq_some_iff hs hall id, status?_contend_eq_none_iff hs hall id⟩,
    fun i => ?_, fun i => exists_outcome hs, fun i answer hdone => ?_⟩
  · rintro before after rfl
    exact rises_contend hs records before after
  · obtain ⟨φ, -, hstatements, -⟩ := hunderway.phase i
    rw [hstatements]
    exact φ.statements_isPrefix (records i)
  · obtain ⟨φ, hleft, -, -⟩ := hunderway.phase i
    rw [hleft] at hdone
    obtain ⟨outcome, houtcome⟩ | ⟨hφ, -⟩ := φ.settled_or (records i)
    · rw [houtcome] at hdone
      cases hdone
      exact ⟨outcome, rfl⟩
    · exact absurd hdone (hφ answer)

/-- A record of one message with this status. -/
def sampleRecord (status : Status) : Record where
  messageId := ⟨"1/0a/7"⟩
  chainId := ⟨2⟩
  method := "completeTransfer"
  txHash := "0xabc"
  sender := "0xfrom"
  target := "0xto"
  blockNumber := 7
  timestamp := .epoch
  status := status
  updatedAt := .epoch

/-- A store that was told of a failure. -/
def sampleStore : SqlStore :=
  (serveAll SqlStore.serve [.upsert (sampleRecord .failed)] empty).2

/-- One client has seen the redemption confirmed, the other knows nothing of it. -/
def sampleRecords (confirming : Bool) : Record :=
  sampleRecord (if confirming then .confirmed else .unknown)

/-- Between the refusal of the unknown status, which is below the stored failure, and the read that
explains it, the other client confirms the redemption. -/
theorem contention_converges_sampleRecords :
    sampleStore.Ranked ∧
    (contend sampleStore sampleRecords [false, true, false]).left false =
      .done (.ok (.rejected (.downgradeFromKnown .confirmed))) ∧
    ∃ before after stored, [false, true, false] = before ++ false :: after ∧
      ((contend sampleStore sampleRecords before).left false).next? =
        some (.status (sampleRecords false).messageId) ∧
      (contend sampleStore sampleRecords before).state.status? (sampleRecords false).messageId =
        .ok (some stored) ∧
      (sampleRecords false).status.rank < stored.rank ∧
      Status.reconcile (some stored) (sampleRecords false).status =
        .error (.downgradeFromKnown .confirmed) :=
  have hs : sampleStore.Ranked := Ranked.empty.serveAll _
  ⟨hs, rfl, (contention_converges hs sampleRecords [false, true, false]).2.2.1 false _ rfl⟩

end SqlStore

end RedemptionWatch
