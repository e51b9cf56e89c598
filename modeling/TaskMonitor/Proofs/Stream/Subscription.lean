import TaskMonitor.Proofs.EventStream.Blocks
import TaskMonitor.Stream.Subscription

/-! # Whole connections of a subscription

What a connection gives depends on its bytes only, and not on its chunks. -/

namespace TaskMonitor

open EventStream (Frame Decoder frames getLast?_filterMap_cons_or)

/-- An interruption is reported, and a connection that stays open is not interrupted. -/
def Ending.signals : Ending → List Signal
  | .held => []
  | _ => [.interrupted]

namespace Subscription

/-! ## Reading on -/

def unread (s : Subscription) : Nat :=
  match s.connection with
  | .reading _ chunks _ => chunks.length + 1
  | _ => 0

theorem unread_readFrom {s s' : Subscription} {decoder : Decoder} {ending : Ending}
    {chunks : List (List UInt8)} {x : Signal}
    (h : s.readFrom decoder ending chunks = (.signal x, s')) :
    s'.unread < chunks.length + 1 := by
  induction chunks generalizing s decoder with
  | nil =>
      by_cases hending : ending = .held
      · simp [readFrom, hending] at h
      · simp only [readFrom, hending, if_false, Prod.mk.injEq] at h
        simp [← h.2, interrupt, unread]
  | cons chunk rest ih =>
      simp only [readFrom] at h
      split at h
      · simp only [Prod.mk.injEq] at h
        simp [← h.2, unread]
      · exact Nat.lt_succ_of_lt (ih h)

theorem read_decreases {s s' : Subscription} {x : Signal} (h : s.read = (.signal x, s')) :
    s'.unread < s.unread ∨ s'.unread = s.unread ∧ s'.pending.length < s.pending.length := by
  obtain ⟨url, retry, lastEventId, connection, pending⟩ := s
  cases pending with
  | cons y rest =>
      simp only [read, Prod.mk.injEq] at h
      simp [← h.2, unread]
  | nil =>
      cases connection with
      | waiting delay => simp [read] at h
      | closed => simp [read] at h
      | reading decoder chunks ending => exact .inl (unread_readFrom h)

/-- The signals up to the next connection, or up to where nothing more arrives. -/
def drain (s : Subscription) : List Signal × Subscription :=
  match _h : s.read with
  | (.signal x, s') => (x :: s'.drain.1, s'.drain.2)
  | (_, s') => ([], s')
termination_by (s.unread, s.pending.length)
decreasing_by all_goals exact Prod.lex_def.mpr (read_decreases _h)

theorem drain_of_signal {s s' : Subscription} {x : Signal} (h : s.read = (.signal x, s')) :
    s.drain = (x :: s'.drain.1, s'.drain.2) := by
  rw [drain]
  split
  next y t hread =>
    obtain ⟨rfl, rfl⟩ : x = y ∧ s' = t := by simpa [h] using hread
    rfl
  next reading t hnone hread =>
    exact absurd (congrArg (·.1) (hread.symm.trans h)) (hnone x)

theorem drain_of_silent {s s' : Subscription} (h : s.read = (.silent, s')) :
    s.drain = ([], s') := by
  rw [drain]
  split
  next y t hread => simp [h] at hread
  next reading t hnone hread =>
    obtain ⟨-, rfl⟩ : Reading.silent = reading ∧ s' = t := by simpa [h] using hread
    rfl

theorem drain_congr {s s' : Subscription} (h : s.read = s'.read) : s.drain = s'.drain := by
  rw [drain, drain, h]

/-! ## Frames -/

theorem absorbAll_eq (s : Subscription) (fs : List Frame) :
    s.absorbAll fs =
      { s with
        lastEventId := (fs.filterMap (·.id)).getLast?.or s.lastEventId
        retry := (fs.filterMap (·.retry)).getLast?.getD s.retry
        pending := s.pending ++ fs.filterMap message? } := by
  induction fs generalizing s with
  | nil => simp [absorbAll]
  | cons f fs ih =>
      have hfold : s.absorbAll (f :: fs) = (s.absorb f).absorbAll fs := rfl
      have hretry : ((f :: fs).filterMap (·.retry)).getLast?.getD s.retry =
          (fs.filterMap (·.retry)).getLast?.getD (f.retry.getD s.retry) := by
        have hlast := congrArg (·.getD s.retry)
          (getLast?_filterMap_cons_or Frame.retry f fs none)
        simpa only [Option.or_none, Option.getD_or] using hlast
      rw [hfold, ih, getLast?_filterMap_cons_or Frame.id, hretry]
      cases hmessage : message? f <;> simp [absorb, hmessage]

theorem drain_pending (s : Subscription) :
    s.drain = (s.pending ++ ({ s with pending := [] }).drain.1,
      ({ s with pending := [] }).drain.2) := by
  obtain ⟨url, retry, lastEventId, connection, pending⟩ := s
  induction pending with
  | nil => rfl
  | cons x rest ih =>
      have hread : read ⟨url, retry, lastEventId, connection, x :: rest⟩ =
          (.signal x, ⟨url, retry, lastEventId, connection, rest⟩) := rfl
      rw [drain_of_signal hread, ih]
      rfl

theorem absorbAll_connection (s : Subscription) (c : Connection) (fs : List Frame) :
    ({ s with connection := c }).absorbAll fs = { s.absorbAll fs with connection := c } := by
  simp only [absorbAll_eq]

theorem readFrom_connection (s : Subscription) (c : Connection) (decoder : Decoder)
    (ending : Ending) (chunks : List (List UInt8)) :
    ({ s with connection := c }).readFrom decoder ending chunks =
      s.readFrom decoder ending chunks := by
  induction chunks generalizing s decoder with
  | nil => rfl
  | cons chunk rest ih =>
      simp only [readFrom, absorbAll_connection]
      split
      · rfl
      · exact ih _ _

theorem read_reading {s : Subscription} (h : s.pending = []) (decoder : Decoder) (ending : Ending)
    (chunks : List (List UInt8)) :
    ({ s with connection := .reading decoder chunks ending }).read =
      s.readFrom decoder ending chunks := by
  obtain ⟨url, retry, lastEventId, connection, pending⟩ := s
  subst h
  exact readFrom_connection ⟨url, retry, lastEventId, connection, []⟩ _ decoder ending chunks

theorem drain_chunk {s : Subscription} (h : s.pending = []) (decoder : Decoder) (ending : Ending)
    (chunk : List UInt8) (rest : List (List UInt8)) :
    ({ s with connection := .reading decoder (chunk :: rest) ending }).drain =
      ({ s.absorbAll (decoder.push chunk).2 with
        connection := .reading (decoder.push chunk).1 rest ending }).drain := by
  apply drain_congr
  rw [read_reading h, readFrom]
  cases hpending : (s.absorbAll (decoder.push chunk).2).pending with
  | cons x more => simp [read, hpending]
  | nil =>
      rw [read_reading hpending]
      simp only [hpending]

theorem drain_end {s : Subscription} (h : s.pending = []) (decoder : Decoder) (ending : Ending) :
    ({ s with connection := .reading decoder [] ending }).drain =
      (ending.signals, { s with connection :=
        if ending = .held then .reading decoder [] .held else .waiting s.retry }) := by
  obtain ⟨url, retry, lastEventId, connection, pending⟩ := s
  subst h
  have hlost : ending ≠ .held → read ⟨url, retry, lastEventId, .reading decoder [] ending, []⟩ =
      (.signal .interrupted, ⟨url, retry, lastEventId, .waiting retry, []⟩) := by
    intro hending
    simp [read, readFrom, interrupt, hending]
  cases ending with
  | held => exact drain_of_silent rfl
  | complete => rw [drain_of_signal (hlost (by decide)), drain_of_silent rfl]; rfl
  | broken => rw [drain_of_signal (hlost (by decide)), drain_of_silent rfl]; rfl

/-! ## One connection -/

/-- What is left of a subscription that has taken frames and handed out what they bring. -/
def after (s : Subscription) (fs : List Frame) : Subscription :=
  { s.absorbAll fs with pending := [] }

/-- The id to resume from after frames: that of the last one that has an id. -/
def lastId (fs : List Frame) (before : Option String) : Option String :=
  (fs.filterMap (·.id)).getLast?.or before

theorem after_lastEventId (s : Subscription) (fs : List Frame) :
    (s.after fs).lastEventId = lastId fs s.lastEventId := by
  simp only [after, absorbAll_eq, lastId]

theorem after_append (s : Subscription) (fs gs : List Frame) :
    (s.after fs).after gs = s.after (fs ++ gs) := by
  simp only [after, absorbAll_eq, List.filterMap_append, List.getLast?_append, Option.or_assoc,
    Option.getD_or]

/-- A connection that is read gives the messages of its frames. -/
theorem drain_reading {s : Subscription} (decoder : Decoder) (chunks : List (List UInt8))
    (ending : Ending) (h : s.pending = []) :
    ({ s with connection := .reading decoder chunks ending }).drain =
      ((decoder.push chunks.flatten).2.filterMap message? ++ ending.signals,
        { s.after (decoder.push chunks.flatten).2 with
          connection :=
            if ending = .held then .reading (decoder.push chunks.flatten).1 [] .held
            else .waiting (s.after (decoder.push chunks.flatten).2).retry }) := by
  induction chunks generalizing s decoder with
  | nil => simpa [Decoder.push, after, absorbAll, h] using drain_end h decoder ending
  | cons chunk rest ih =>
      rw [drain_chunk h, drain_pending]
      have hafter : ({ s.absorbAll (decoder.push chunk).2 with
          connection := Connection.reading (decoder.push chunk).1 rest ending, pending := [] } :
            Subscription) =
          { s.after (decoder.push chunk).2 with
            connection := .reading (decoder.push chunk).1 rest ending } := rfl
      rw [hafter, ih _ rfl, List.flatten_cons, EventStream.Decoder.push_append]
      simp only [after_append, absorbAll_eq, h, List.nil_append, List.filterMap_append,
        List.append_assoc]

/-! ## Attempts -/

def mayAsk (s : Subscription) : Bool := s.lastEventId.all (·.toList.all Request.isHeaderChar)

/-- What an attempt gives up to the next one. A request that cannot be sent fails. -/
def dial (s : Subscription) (a : Attempt) : List Signal × Subscription :=
  let (x, s) := s.connected (if s.mayAsk then a else .failed)
  (x :: s.drain.1, s.drain.2)

def run (s : Subscription) : List Attempt → List Signal × Subscription
  | [] => ([], s)
  | a :: rest =>
    if s.delay?.isSome then
      let (signals, s) := s.dial a
      let (more, s) := s.run rest
      (signals ++ more, s)
    else ([], s)

theorem dial_failed {s : Subscription} (h : s.pending = []) :
    s.dial .failed = ([.interrupted], s.interrupt) := by
  obtain ⟨url, retry, lastEventId, connection, pending⟩ := s
  subst h
  have hread : (interrupt ⟨url, retry, lastEventId, connection, []⟩).read =
      (.silent, interrupt ⟨url, retry, lastEventId, connection, []⟩) := rfl
  simp only [dial, ite_self, connected]
  rw [drain_of_silent hread]

theorem dial_accepted {s : Subscription} (h : s.pending = []) (hask : s.mayAsk = true)
    (chunks : List (List UInt8)) (ending : Ending) :
    s.dial (.accepted chunks ending) =
      (.opened :: (frames chunks.flatten).filterMap message? ++ ending.signals,
        { s.after (frames chunks.flatten) with
          connection :=
            if ending = .held then .reading (Decoder.empty.push chunks.flatten).1 [] .held
            else .waiting (s.after (frames chunks.flatten)).retry }) := by
  simp only [dial, hask, if_true, connected]
  rw [drain_reading .empty chunks ending h]
  rfl

end Subscription

end TaskMonitor
