import TaskMonitor.Stream.Handler

/-! # The handler slot as a cell

A slot gives its handler away while that runs, and decides afterwards whether to take it back. No
answer that it gives, inside a running handler or outside, tells it from a cell that never lost its
handler. -/

namespace TaskMonitor

variable {α : Type}

/-! ## Events of a slot -/

def SlotAction.isChange {η : Type} : SlotAction η → Bool
  | set _ | clear => true
  | ask => false

/-- What happens to a slot: an action, or the delivery of an envelope. The handler that a delivery
calls does what `conduct` says, which may be something else each time. -/
inductive SlotEvent (α : Type) where
  | action (a : SlotAction (Handler α))
  | delivery (conduct : Handler α → List (SlotAction (Handler α)))

/-- What is learnt from an event: the answer to a question, or the handler that was called with the
answers it got, if one was. -/
inductive SlotReport (α : Type) where
  | answers (answers : List Bool)
  | call (called : Option (α × List Bool))
  deriving DecidableEq, Repr

namespace HandlerSlot

def handle (s : HandlerSlot α) : SlotEvent α → HandlerSlot α × SlotReport α
  | .action a =>
    let (s, answers) := s.run [a]
    (s, .answers answers)
  | .delivery conduct =>
    let (s, called) := s.invokeBy conduct
    (s, .call called)

def handleAll (s : HandlerSlot α) : List (SlotEvent α) → HandlerSlot α × List (SlotReport α)
  | [] => (s, [])
  | e :: rest =>
    let (s, report) := s.handle e
    let (s, reports) := s.handleAll rest
    (s, report :: reports)

end HandlerSlot

/-! ## The cell -/

structure HandlerCell (α : Type) where
  handler : Option (Handler α)

namespace HandlerCell

def empty : HandlerCell α := ⟨none⟩

def run (c : HandlerCell α) : List (SlotAction (Handler α)) → HandlerCell α × List Bool
  | [] => (c, [])
  | .set h :: rest => (⟨some h⟩ : HandlerCell α).run rest
  | .clear :: rest => (⟨none⟩ : HandlerCell α).run rest
  | .ask :: rest =>
    let (after, answers) := c.run rest
    (after, c.handler.isSome :: answers)

def handle (c : HandlerCell α) : SlotEvent α → HandlerCell α × SlotReport α
  | .action a =>
    let (c, answers) := c.run [a]
    (c, .answers answers)
  | .delivery conduct =>
    match c.handler with
    | none => (c, .call none)
    | some h =>
      let (c, answers) := c.run (conduct h)
      (c, .call (some (h.label, answers)))

def handleAll (c : HandlerCell α) : List (SlotEvent α) → HandlerCell α × List (SlotReport α)
  | [] => (c, [])
  | e :: rest =>
    let (c, report) := c.handle e
    let (c, reports) := c.handleAll rest
    (c, report :: reports)

/-- How often the cell is set or cleared by an event, also from inside the handler it calls. -/
def changes (c : HandlerCell α) : SlotEvent α → Nat
  | .action a => [a].countP SlotAction.isChange
  | .delivery conduct => c.handler.elim 0 fun h => (conduct h).countP SlotAction.isChange

def changesOfAll (c : HandlerCell α) : List (SlotEvent α) → Nat
  | [] => 0
  | e :: rest => c.changes e + (c.handle e).1.changesOfAll rest

end HandlerCell

/-! ## While a handler runs -/

namespace HandlerSlot

/-- What a cell would hold in place of the slot, if `lent` is the handler that is out of it. -/
def content (s : HandlerSlot α) (lent : Option (Handler α)) : HandlerCell α :=
  ⟨if s.running = some s.generation then lent else s.handler⟩

/-- If a handler runs, it is the one that is out of the slot, which has been changed so many times
since. -/
structure IsLending (s : HandlerSlot α) (lent : Option (Handler α)) (changes : Nat) : Prop where
  generation_lt : s.generation < wordLimit
  lent : ∀ g, s.running = some g → lent.isSome = true
  since : ∀ g, s.running = some g → g < wordLimit ∧ s.generation = (g + changes) % wordLimit

theorem content_of_idle {s : HandlerSlot α} (h : s.running = none) (lent : Option (Handler α)) :
    s.content lent = ⟨s.handler⟩ := by
  simp [content, h]

namespace IsLending

variable {s : HandlerSlot α} {lent : Option (Handler α)} {changes : Nat}

theorem isSet_eq (h : s.IsLending lent changes) :
    s.isSet = (s.content lent).handler.isSome := by
  by_cases hrunning : s.running = some s.generation
  · simp [isSet, content, hrunning, h.lent _ hrunning]
  · simp [isSet, content, hrunning]

theorem nextGeneration_eq (h : s.IsLending lent changes) {g : Nat} (hg : s.running = some g) :
    s.nextGeneration = (g + (changes + 1)) % wordLimit := by
  rw [nextGeneration, (h.since g hg).2, Nat.mod_add_mod, Nat.add_assoc]

/-- Fewer changes than there are generations never lead back to the one that runs. -/
theorem running_ne (h : s.IsLending lent changes) (hchanges : changes + 1 < wordLimit) :
    s.running ≠ some s.nextGeneration := by
  intro hrunning
  have hg := (h.since _ hrunning).1
  have hnext := h.nextGeneration_eq hrunning
  generalize s.nextGeneration = g at hg hnext
  unfold wordLimit at *
  omega

theorem set (h : s.IsLending lent changes) (handler : Handler α) :
    (s.set handler).IsLending lent (changes + 1) :=
  ⟨Nat.mod_lt _ (by decide), h.lent, fun g hg => ⟨(h.since g hg).1, h.nextGeneration_eq hg⟩⟩

theorem clear (h : s.IsLending lent changes) : s.clear.IsLending lent (changes + 1) :=
  ⟨Nat.mod_lt _ (by decide), h.lent, fun g hg => ⟨(h.since g hg).1, h.nextGeneration_eq hg⟩⟩

theorem content_set (h : s.IsLending lent changes) (hchanges : changes + 1 < wordLimit)
    (handler : Handler α) : (s.set handler).content lent = ⟨some handler⟩ :=
  congrArg HandlerCell.mk (if_neg (h.running_ne hchanges))

theorem content_clear (h : s.IsLending lent changes) (hchanges : changes + 1 < wordLimit) :
    s.clear.content lent = ⟨none⟩ :=
  congrArg HandlerCell.mk (if_neg (h.running_ne hchanges))

/-- Actions get the answers that a cell would give, and leave what they would leave in it. The
changes that were made before and those to come stay below the number of generations. -/
theorem run (h : s.IsLending lent changes) {actions : List (SlotAction (Handler α))}
    (hchanges : changes + actions.countP SlotAction.isChange < wordLimit) :
    (s.run actions).2 = ((s.content lent).run actions).2 ∧
      (s.run actions).1.content lent = ((s.content lent).run actions).1 ∧
      (s.run actions).1.generation < wordLimit := by
  induction actions generalizing s changes with
  | nil => exact ⟨rfl, rfl, h.generation_lt⟩
  | cons action actions ih =>
      cases action with
      | set handler =>
          rw [List.countP_cons_of_pos rfl] at hchanges
          have hrest := ih (h.set handler) (by omega)
          rw [h.content_set (by omega)] at hrest
          exact hrest
      | clear =>
          rw [List.countP_cons_of_pos rfl] at hchanges
          have hrest := ih h.clear (by omega)
          rw [h.content_clear (by omega)] at hrest
          exact hrest
      | ask =>
          rw [List.countP_cons_of_neg (by simp [SlotAction.isChange])] at hchanges
          obtain ⟨hanswers, hcontent, hgeneration⟩ := ih h hchanges
          refine ⟨?_, hcontent, hgeneration⟩
          simp only [HandlerSlot.run, HandlerCell.run, hanswers, h.isSet_eq]

end IsLending

theorem running_run (s : HandlerSlot α) (actions : List (SlotAction (Handler α))) :
    (s.run actions).1.running = s.running := by
  induction actions generalizing s with
  | nil => rfl
  | cons action actions ih =>
      cases action with
      | set handler => exact ih (s.set handler)
      | clear => exact ih s.clear
      | ask => exact ih s

def lend (s : HandlerSlot α) : HandlerSlot α :=
  { s with handler := none, running := some s.generation }

theorem content_lend {s : HandlerSlot α} {h : Handler α} (hslot : s.handler = some h) :
    s.lend.content (some h) = ⟨s.handler⟩ := by
  simp [content, lend, hslot]

theorem isLending_lend {s : HandlerSlot α} (hgeneration : s.generation < wordLimit)
    (h : Handler α) : s.lend.IsLending (some h) 0 where
  generation_lt := hgeneration
  lent _ _ := rfl
  since g hg := by
    obtain rfl : s.generation = g := by simpa [lend] using hg
    exact ⟨hgeneration, (Nat.mod_eq_of_lt hgeneration).symm⟩

theorem invokeBy_eq {s : HandlerSlot α} {h : Handler α} (hslot : s.handler = some h)
    (conduct : Handler α → List (SlotAction (Handler α))) :
    s.invokeBy conduct =
      (⟨((s.lend.run (conduct h)).1.content (some h)).handler,
          (s.lend.run (conduct h)).1.generation, none⟩,
        some (h.label, (s.lend.run (conduct h)).2)) := by
  have hrunning : (s.lend.run (conduct h)).1.running = some s.generation := running_run _ _
  have hcall : s.invokeBy conduct =
      (if (s.lend.run (conduct h)).1.generation = s.generation then
          ⟨some h, (s.lend.run (conduct h)).1.generation, none⟩
        else ⟨(s.lend.run (conduct h)).1.handler, (s.lend.run (conduct h)).1.generation, none⟩,
        some (h.label, (s.lend.run (conduct h)).2)) := by
    simp only [invokeBy, hslot]
    rfl
  rw [hcall]
  generalize s.lend.run (conduct h) = ended at hrunning ⊢
  by_cases hsame : ended.1.generation = s.generation
  · simp [content, hrunning, hsame]
  · simp [content, hrunning, hsame, Ne.symm hsame]

/-! ## Between the calls -/

/-- No handler runs, and the slot holds what the cell does. -/
structure Agrees (s : HandlerSlot α) (c : HandlerCell α) : Prop where
  idle : s.running = none
  generation_lt : s.generation < wordLimit
  handler : s.handler = c.handler

namespace Agrees

variable {s : HandlerSlot α} {c : HandlerCell α}

theorem empty : (HandlerSlot.empty : HandlerSlot α).Agrees .empty where
  idle := rfl
  generation_lt := Nat.mod_lt 0 (by decide)
  handler := rfl

theorem action (h : s.Agrees c) (a : SlotAction (Handler α)) :
    (s.handle (.action a)).2 = (c.handle (.action a)).2 ∧
      (s.handle (.action a)).1.Agrees (c.handle (.action a)).1 := by
  have hlending : s.IsLending none 0 := ⟨h.generation_lt, by simp [h.idle], by simp [h.idle]⟩
  have hone : 0 + [a].countP SlotAction.isChange < wordLimit := by
    have hle : [a].countP SlotAction.isChange ≤ 1 := List.countP_le_length
    unfold wordLimit
    omega
  obtain ⟨hanswers, hcontent, hgeneration⟩ := hlending.run hone
  have hidle : (s.run [a]).1.running = none := (running_run s [a]).trans h.idle
  have hcell : s.content none = c := (content_of_idle h.idle none).trans (congrArg _ h.handler)
  rw [hcell] at hanswers hcontent
  rw [content_of_idle hidle] at hcontent
  exact ⟨congrArg _ hanswers, hidle, hgeneration, congrArg (·.handler) hcontent⟩

theorem delivery (h : s.Agrees c) {conduct : Handler α → List (SlotAction (Handler α))}
    (hchanges : c.changes (.delivery conduct) < wordLimit) :
    (s.handle (.delivery conduct)).2 = (c.handle (.delivery conduct)).2 ∧
      (s.handle (.delivery conduct)).1.Agrees (c.handle (.delivery conduct)).1 := by
  cases hhandler : c.handler with
  | none =>
      have hslot : s.handle (.delivery conduct) = (s, .call none) := by
        simp [HandlerSlot.handle, invokeBy, h.handler.trans hhandler]
      have hcell : c.handle (.delivery conduct) = (c, .call none) := by
        simp [HandlerCell.handle, hhandler]
      rw [hslot, hcell]
      exact ⟨rfl, h⟩
  | some handler =>
      have hslot : s.handler = some handler := h.handler.trans hhandler
      have hcell : s.lend.content (some handler) = c :=
        (content_lend hslot).trans (congrArg _ h.handler)
      have hcount : 0 + (conduct handler).countP SlotAction.isChange < wordLimit := by
        simpa [HandlerCell.changes, hhandler] using hchanges
      obtain ⟨hanswers, hcontent, hgeneration⟩ :=
        (isLending_lend h.generation_lt handler).run hcount
      rw [hcell] at hanswers hcontent
      simp only [HandlerSlot.handle, invokeBy_eq hslot, HandlerCell.handle, hhandler]
      exact ⟨by rw [hanswers], rfl, hgeneration, congrArg (·.handler) hcontent⟩

theorem handle (h : s.Agrees c) {e : SlotEvent α} (hchanges : c.changes e < wordLimit) :
    (s.handle e).2 = (c.handle e).2 ∧ (s.handle e).1.Agrees (c.handle e).1 := by
  cases e with
  | action a => exact h.action a
  | delivery conduct => exact h.delivery hchanges

theorem handleAll (h : s.Agrees c) {events : List (SlotEvent α)}
    (hchanges : c.changesOfAll events < wordLimit) :
    (s.handleAll events).2 = (c.handleAll events).2 ∧
      (s.handleAll events).1.Agrees (c.handleAll events).1 := by
  induction events generalizing s c with
  | nil => exact ⟨rfl, h⟩
  | cons e events ih =>
      rw [HandlerCell.changesOfAll] at hchanges
      obtain ⟨hreport, hnext⟩ := h.handle (e := e) (by omega)
      obtain ⟨hreports, hlast⟩ := ih hnext (by omega)
      refine ⟨?_, hlast⟩
      simp only [HandlerSlot.handleAll, HandlerCell.handleAll, hreport, hreports]

end Agrees

/-- Whatever happens to a slot, it is reported as a cell would report it, and the slot goes on to
hold the handler that the cell would. -/
theorem reports_handleAll (events : List (SlotEvent α))
    (h : (HandlerCell.empty : HandlerCell α).changesOfAll events < wordLimit) :
    ((empty : HandlerSlot α).handleAll events).2 = (HandlerCell.empty.handleAll events).2 ∧
      ((empty : HandlerSlot α).handleAll events).1.handler =
        (HandlerCell.empty.handleAll events).1.handler := by
  obtain ⟨hreports, hlast⟩ := Agrees.empty.handleAll h
  exact ⟨hreports, hlast.handler⟩

/-- The first handler clears the slot and puts a second one into it, which puts in a third one and
clears the slot again; later it does something else and only asks. -/
theorem nested_handlers_reported :
    let third : Handler Nat := .mk 3 [.ask]
    let second : Handler Nat := .mk 2 [.set third, .ask, .clear, .ask]
    let first : Handler Nat := .mk 1 [.ask, .clear, .ask, .set second, .ask]
    let events : List (SlotEvent Nat) :=
      [.delivery Handler.actions, .action (.set first), .delivery Handler.actions, .action .ask,
        .delivery fun _ => [.ask], .delivery Handler.actions, .action .ask,
        .delivery Handler.actions]
    HandlerCell.empty.changesOfAll events < wordLimit ∧
      (empty.handleAll events).2 =
        [.call none, .answers [], .call (some (1, [true, false, true])), .answers [true],
          .call (some (2, [true])), .call (some (2, [true, false])), .answers [false],
          .call none] := by
  refine ⟨by decide, (reports_handleAll _ (by decide)).1.trans (by decide)⟩

end HandlerSlot

end TaskMonitor
