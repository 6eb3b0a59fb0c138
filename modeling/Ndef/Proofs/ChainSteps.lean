import Mathlib.Logic.Function.Basic
import Ndef.Proofs.ChainRecords

/-!
# Steps on chains

A program makes, changes and compares chains that are kept at numbered places, one step after
the other (`ChainStep.run`).  What the steps need of chains is listed in `ChainOperations`, so
that the same program also runs on lists of records.  Reading the chains as lists commutes
with every step (`ChainOperations.Refines.step`), and so with every program
(`ChainOperations.Refines.run`).
-/

namespace Ndef

/-- What can be done with chains that are held as values of the type `α`. -/
structure ChainOperations (α : Type) where
  /-- The chain of the first records of the given chains, if there are any. -/
  relink? : List α → Option α
  /-- Each record as a chain of its own. -/
  breakUp : α → List α
  /-- A chain behind another one. -/
  append : α → α → α
  /-- The first record alone, and the chain that was behind it. -/
  takeNext : α → α × Option α
  /-- A chain of copies of the records. -/
  copy : α → α
  /-- A copy of the first record alone. -/
  detached : α → α
  /-- The records that a walk comes to. -/
  records : α → List Record
  /-- The number of records that a walk comes to. -/
  length : α → Nat
  /-- Whether two chains are the same. -/
  same : α → α → Bool

/-- Linked chains. -/
def RecordChain.operations : ChainOperations RecordChain where
  relink? := relink?
  breakUp := breakUp
  append := append
  takeNext := takeNext
  copy := copy
  detached := detached
  records c := c.nodes.map record
  length := length
  same := same

/-- Chains as lists of records. -/
def ChainOperations.onLists : ChainOperations (List Record) where
  relink? lists := if lists = [] then none else some (lists.filterMap List.head?)
  breakUp records := records.map fun r => [r]
  append records others := records ++ others
  takeNext records := (records.take 1, if records.length ≤ 1 then none else some (records.drop 1))
  copy records := records
  detached records := records.take 1
  records records := records
  length records := records.length
  same records others := decide (records = others)

/-- Chains as messages. -/
def Message.operations : ChainOperations Message where
  relink? := relink?
  breakUp := singles
  append := append
  takeNext m := (m.alone, m.following?)
  copy m := m
  detached := alone
  records := records
  length := length
  same m n := decide (m = n)

/-! ### Programs -/

/-- Where chains are kept. -/
abbrev Places (α : Type) := Nat → Option α

namespace Places

variable {α β : Type}

/-- Reads what is kept. -/
def map (f : α → β) (s : Places α) : Places β :=
  Option.map f ∘ s

/-- Keeps a chain, or nothing, at a place. -/
def put (s : Places α) (place : Nat) (c? : Option α) : Places α :=
  Function.update s place c?

/-- Keeps chains at a place and those after it. -/
def putAll (s : Places α) (place : Nat) : List α → Places α
  | [] => s
  | c :: chains => (s.put place (some c)).putAll (place + 1) chains

/-- Takes away the chains at the given places, in order.  A place from which the chain was
taken before holds none. -/
def takeAll (s : Places α) : List Nat → List α × Places α
  | [] => ([], s)
  | place :: places =>
    let (chains, left) := (s.put place none).takeAll places
    ((s place).toList ++ chains, left)

end Places

/-- What is done with chains at once.  Breaking up, appending and linking take the chains
away from their places. -/
inductive ChainStep where
  | relink (sources : List Nat) (target : Nat)
  | breakUp (source target : Nat)
  | append (source target : Nat)
  | takeNext (source target : Nat)
  | copy (source target : Nat)
  | detach (source target : Nat)
  | walk (source : Nat)
  | count (source : Nat)
  | compare (source other : Nat)

/-- What a step tells. -/
inductive ChainAnswer where
  | done
  | missing
  | records (records : List Record)
  | number (count : Nat)
  | truth (b : Bool)

section
variable {α : Type}

/-- What is done with the chain at a place, if there is one. -/
def Places.at (s : Places α) (place : Nat) (f : α → Places α × ChainAnswer) :
    Places α × ChainAnswer :=
  match s place with
  | some c => f c
  | none => (s, .missing)

/-- One step. -/
def ChainStep.run (p : ChainOperations α) (s : Places α) : ChainStep → Places α × ChainAnswer
  | relink sources target =>
    let (chains, left) := s.takeAll sources
    (left.put target (p.relink? chains), .done)
  | breakUp source target =>
    s.at source fun c => ((s.put source none).putAll target (p.breakUp c), .done)
  | append source target =>
    s.at source fun d => (s.put source none).at target fun c =>
      ((s.put source none).put target (some (p.append c d)), .done)
  | takeNext source target =>
    s.at source fun c =>
      ((s.put source (some (p.takeNext c).1)).put target (p.takeNext c).2, .done)
  | copy source target => s.at source fun c => (s.put target (some (p.copy c)), .done)
  | detach source target => s.at source fun c => (s.put target (some (p.detached c)), .done)
  | walk source => s.at source fun c => (s, .records (p.records c))
  | count source => s.at source fun c => (s, .number (p.length c))
  | compare source other =>
    s.at source fun c => s.at other fun d => (s, .truth (p.same c d))

/-- The steps of a program, one after the other, and what each of them tells. -/
def ChainOperations.run (p : ChainOperations α) (s : Places α) :
    List ChainStep → Places α × List ChainAnswer
  | [] => (s, [])
  | step :: program =>
    let (middle, answer) := step.run p s
    let (left, answers) := p.run middle program
    (left, answer :: answers)

end

/-! ### Reading chains in another way -/

/-- Reading chains with `f` commutes with what can be done with them. -/
structure ChainOperations.Refines {α β : Type} (p : ChainOperations α) (q : ChainOperations β)
    (f : α → β) : Prop where
  relink? : ∀ chains, q.relink? (chains.map f) = (p.relink? chains).map f
  breakUp : ∀ c, q.breakUp (f c) = (p.breakUp c).map f
  append : ∀ c d, q.append (f c) (f d) = f (p.append c d)
  takeNext : ∀ c, q.takeNext (f c) = (f (p.takeNext c).1, (p.takeNext c).2.map f)
  copy : ∀ c, q.copy (f c) = f (p.copy c)
  detached : ∀ c, q.detached (f c) = f (p.detached c)
  records : ∀ c, q.records (f c) = p.records c
  length : ∀ c, q.length (f c) = p.length c
  same : ∀ c d, q.same (f c) (f d) = p.same c d

namespace Places

variable {α β : Type} (f : α → β) (s : Places α)

@[simp]
theorem map_apply (place : Nat) :
  s.map f place = (s place).map f
  := rfl

theorem map_put (place : Nat) (c? : Option α) :
  (s.put place c?).map f = (s.map f).put place (c?.map f)
  := by
  apply Function.comp_update

theorem map_putAll (place : Nat) (chains : List α) :
  (s.putAll place chains).map f = (s.map f).putAll place (chains.map f)
  := by
  induction chains generalizing s place with
  | nil => rfl
  | cons c chains ih =>
    rw [putAll, ih, map_put]
    rfl

theorem takeAll_map (places : List Nat) :
  (s.map f).takeAll places = ((s.takeAll places).1.map f, (s.takeAll places).2.map f)
  := by
  induction places generalizing s with
  | nil => rfl
  | cons place places ih =>
    have hput : (s.map f).put place none = (s.put place none).map f := (map_put f s place none).symm
    rw [takeAll, hput, ih, takeAll]
    simp [Option.toList_map]

/-- What is done with the chain at a place is read as what is done with the chain that is
read, if that holds of the chain at that place. -/
theorem at_map {place : Nat} {k : α → Places α × ChainAnswer} {l : β → Places β × ChainAnswer}
    (h : ∀ c, l (f c) = ((k c).1.map f, (k c).2)) :
  (s.map f).at place l = ((s.at place k).1.map f, (s.at place k).2)
  := by
  rw [Places.at, Places.at, map_apply]
  cases s place with
  | none => rfl
  | some c => apply h

end Places

namespace ChainOperations.Refines

variable {α β : Type} {p : ChainOperations α} {q : ChainOperations β} {f : α → β}

/-- Reading chains commutes with one step, which tells the same. -/
theorem step (h : p.Refines q f) (step : ChainStep) (s : Places α) :
  step.run q (s.map f) = ((step.run p s).1.map f, (step.run p s).2)
  := by
  cases step with
  | relink sources target =>
    simp only [ChainStep.run, Places.takeAll_map, h.relink?, Places.map_put]
  | breakUp source target =>
    apply Places.at_map
    intro c
    rw [h.breakUp, Places.map_putAll, Places.map_put]
    rfl
  | append source target =>
    apply Places.at_map
    intro d
    -- The chain at the source is taken away before the target is looked up.
    have hput : (s.map f).put source none = (s.put source none).map f :=
      (Places.map_put f s source none).symm
    rw [hput]
    apply Places.at_map
    intro c
    simp only [h.append, Places.map_put, Option.map_some, Option.map_none]
  | takeNext source target =>
    apply Places.at_map
    intro c
    rw [h.takeNext, Places.map_put, Places.map_put]
    rfl
  | copy source target =>
    apply Places.at_map
    intro c
    rw [h.copy, Places.map_put]
    rfl
  | detach source target =>
    apply Places.at_map
    intro c
    rw [h.detached, Places.map_put]
    rfl
  | walk source =>
    apply Places.at_map
    intro c
    rw [h.records]
  | count source =>
    apply Places.at_map
    intro c
    rw [h.length]
  | compare source other =>
    apply Places.at_map
    intro c
    apply Places.at_map
    intro d
    rw [h.same]

/-- Reading chains commutes with every program, which tells the same. -/
theorem run (h : p.Refines q f) (program : List ChainStep) (s : Places α) :
  q.run (s.map f) program = ((p.run s program).1.map f, (p.run s program).2)
  := by
  induction program generalizing s with
  | nil => rfl
  | cons step program ih => simp only [ChainOperations.run, h.step, ih]

end ChainOperations.Refines

/-! ### Chains, messages and lists of records -/

namespace RecordChain

theorem filterMap_head?_records (chains : List RecordChain) :
  (chains.map records).filterMap List.head? = chains.map record
  := by
  rw [List.filterMap_map, ← List.filterMap_eq_map]
  congr 1
  funext c
  rw [Function.comp_apply, records_eq_cons]
  rfl

/-- What is done with chains is what is done with the messages that they hold. -/
theorem refines_messages :
  operations.Refines Message.operations message
  where
  relink? chains := (map_message_relink? chains).symm
  breakUp c := by
    change c.message.records.map _ = c.breakUp.map message
    rw [records_message, breakUp_eq, List.map_map]
    rfl
  append c d := by
    symm
    rw [message_eq_iff]
    change (c.append d).records = (c.message.append d.message).records
    rw [Message.records_append, records_message, records_message, records_append]
  takeNext c := by
    obtain ⟨r, c?⟩ := c
    cases c? with
    | none => rfl
    | some c =>
      have hrest : Message.ofRecords? c.records = some c.message := by
        rw [← records_message, Message.ofRecords?_records]
      exact congrArg (Prod.mk (Message.single r)) hrest
  copy c := by
    change c.message = c.copy.message
    rw [copy_eq]
  detached _ := rfl
  records c := by
    change c.message.records = c.nodes.map record
    rw [records_message, map_record_nodes]
  length c := by
    change c.message.length = c.length
    rw [← Message.length_records, records_message, length_records]
  same c d := by
    change decide (c.message = d.message) = c.same d
    rw [Bool.eq_iff_iff, decide_eq_true_iff, same_iff, message_eq_iff, records_message]
    constructor
    · apply records_injective
    · rintro rfl
      rfl

/-- What is done with chains is what is done with the lists of their records. -/
theorem refines_lists :
  operations.Refines .onLists records
  where
  relink? chains := by
    change (if chains.map records = [] then _ else _) = (relink? chains).map records
    rw [map_records_relink?, filterMap_head?_records]
    simp
  breakUp c := by
    change c.records.map _ = c.breakUp.map records
    rw [breakUp_eq, List.map_map]
    rfl
  append c d := (records_append c d).symm
  takeNext c := by
    obtain ⟨r, c?⟩ := c
    cases c? with
    | none => rfl
    | some c =>
      have hlength : ¬ (r :: c.records).length ≤ 1 := by
        simp [records_ne_nil]
      change (_, if (r :: c.records).length ≤ 1 then _ else _) = _
      rw [if_neg hlength]
      rfl
  copy c := by
    change c.records = c.copy.records
    rw [copy_eq]
  detached c := by
    change c.records.take 1 = c.detached.records
    rw [records_eq_cons]
    rfl
  records c := (map_record_nodes c).symm
  length := length_records
  same c d := by
    change decide (c.records = d.records) = c.same d
    rw [Bool.eq_iff_iff, decide_eq_true_iff, same_iff]
    constructor
    · apply records_injective
    · rintro rfl
      rfl

/-- Read as the list of its records, a chain is what the operations on it say, one by one and
in every program. -/
theorem operations_exact :
  (∀ c : RecordChain, c.records = c.record :: (c.next?.map records).getD [])
    ∧ (∀ chains, (relink? chains).map records
      = if chains = [] then none else some (chains.map record))
    ∧ (∀ chains, relink? chains = none ↔ chains = [])
    ∧ (∀ c : RecordChain, c.breakUp = c.records.map single ∧ (∀ d ∈ c.breakUp, d.next? = none)
      ∧ ∃ d, relink? c.breakUp = some d ∧ d.same c = true)
    ∧ (∀ c d : RecordChain, (c.append d).records = c.records ++ d.records)
    ∧ (∀ c : RecordChain, c.takeNext = (single c.record, c.next?)
      ∧ c.takeNext.1.records ++ (c.takeNext.2.map records).getD [] = c.records)
    ∧ (∀ c : RecordChain, c.copy.same c = true ∧ c.copy.records = c.records)
    ∧ (∀ c : RecordChain, c.detached.records = [c.record] ∧ c.detached.next? = none)
    ∧ (∀ c : RecordChain, c.nodes.map record = c.records ∧ c.length = c.records.length)
    ∧ (∀ c d : RecordChain, c.same d = true
      ↔ List.Forall₂ (fun r s => r.same s = true) c.records d.records)
    ∧ (∀ r s : Record, r.same s = true ↔ r = s)
    ∧ (∀ f g : Frame, SmartPoster.sameIcon (some f) (some g)
      = (single (.uninterpreted f)).same (single (.uninterpreted g)))
    ∧ ∀ (program : List ChainStep) (s : Places RecordChain),
      ChainOperations.onLists.run (s.map records) program
        = ((operations.run s program).1.map records, (operations.run s program).2)
  := by
  refine ⟨?_, map_records_relink?, relink?_eq_none_iff, ?_, records_append, ?_, ?_, ?_, ?_,
    fun c d => same_iff_forall₂, fun r s => Record.same_iff, ?_, refines_lists.run⟩
  · rintro ⟨r, c?⟩
    apply records_node
  · intro c
    refine ⟨c.breakUp_eq, ?_, c, c.relink?_breakUp, same_iff.mpr rfl⟩
    rw [breakUp_eq]
    intro d hd
    obtain ⟨r, -, rfl⟩ := List.mem_map.mp hd
    rfl
  · intro c
    obtain ⟨hfirst, hrest⟩ := c.records_takeNext
    refine ⟨rfl, ?_⟩
    rw [hfirst, hrest]
    exact c.records_eq_cons.symm
  · intro c
    rw [copy_eq]
    exact ⟨same_iff.mpr rfl, rfl⟩
  · intro c
    exact ⟨c.records_detached, rfl⟩
  · intro c
    exact ⟨c.map_record_nodes, c.length_records.symm⟩
  · intro f g
    have hcontent : Content.same .generic .generic = true := rfl
    simp [SmartPoster.sameIcon, single, same, Record.same, Record.uninterpreted, Record.content,
      hcontent]

end RecordChain

end Ndef
