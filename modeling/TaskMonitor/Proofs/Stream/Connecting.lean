import Mathlib.Data.List.Forall2
import Mathlib.Data.List.TakeWhile
import TaskMonitor.Stream.Subscription

/-! # Requests for an event stream

What a request for an event stream brings is a matter of the status and the content type of its
answer. A request that would name an id that cannot stand in a header is not sent. -/

namespace TaskMonitor

/-! ## Outcomes -/

/-- The content type is that of an event stream, in plain characters. Blanks in front do not belong
to it, and parameters may follow. -/
def Answer.NamesStream (a : Answer) : Prop :=
  ∃ (type : String) (blanks parameters : List Char), a.contentType = some type ∧
    type.toList = blanks ++ ("text/event-stream".toList ++ parameters) ∧
    (∀ c ∈ blanks, c = ' ' ∨ c = '\t') ∧
    ∀ c ∈ parameters, c = '\t' ∨ 0x20 ≤ c.toNat ∧ c.toNat < 0x7F

theorem Answer.isStream_iff (a : Answer) : a.isStream = true ↔ a.NamesStream := by
  constructor
  · intro h
    unfold isStream at h
    split at h
    next => simp at h
    next type htype =>
      obtain ⟨hbegins, hplain⟩ := (Bool.and_eq_true _ _).mp h
      obtain ⟨parameters, hparameters⟩ := List.isPrefixOf_iff_prefix.mp hbegins
      rw [← hparameters] at hplain
      refine ⟨type, type.toList.takeWhile fun c => c = ' ' || c = '\t', parameters, htype,
        ?_, ?_, ?_⟩
      · exact List.takeWhile_append_dropWhile.symm.trans (congrArg _ hparameters.symm)
      · intro c hc
        simpa using List.mem_takeWhile_imp hc
      · intro c hc
        simpa using List.all_eq_true.mp hplain c (List.mem_append_right _ hc)
  · rintro ⟨type, blanks, parameters, htype, htext, hblanks, hplain⟩
    have hdropped : type.toList.dropWhile (fun c => c = ' ' || c = '\t') =
        streamType ++ parameters := by
      rw [htext, List.dropWhile_append_of_pos (by simpa using hblanks)]
      rfl
    have hall : (streamType ++ parameters).all
        (fun c => c = '\t' || (0x20 ≤ c.toNat && c.toNat < 0x7F)) = true := by
      rw [List.all_append, Bool.and_eq_true]
      exact ⟨by decide, by simpa using hplain⟩
    simp only [isStream, htype, hdropped, hall, Bool.and_true]
    exact List.isPrefixOf_iff_prefix.mpr (List.prefix_append _ _)

/-- What comes of a request: an answer that is no success, or no event stream, is a refusal. -/
inductive IsOutcome : Option Answer → Attempt → Prop where
  | unanswered : IsOutcome none .failed
  | unsuccessful {a : Answer} (h : ¬ (200 ≤ a.status ∧ a.status < 300)) :
      IsOutcome (some a) .refused
  | otherType {a : Answer} (h : ¬ a.NamesStream) : IsOutcome (some a) .refused
  | accepted {a : Answer} (hstatus : 200 ≤ a.status ∧ a.status < 300) (htype : a.NamesStream) :
      IsOutcome (some a) (.accepted a.chunks a.ending)

theorem isOutcome_iff {answer : Option Answer} {attempt : Attempt} :
    IsOutcome answer attempt ↔ Attempt.ofAnswer? answer = attempt := by
  have hsuccess (a : Answer) : a.isSuccess = true ↔ 200 ≤ a.status ∧ a.status < 300 := by
    simp [Answer.isSuccess]
  constructor
  · rintro (_ | h | h | ⟨hstatus, htype⟩)
    · rfl
    · rw [← hsuccess, Bool.not_eq_true] at h
      simp [Attempt.ofAnswer?, h]
    · rw [← Answer.isStream_iff, Bool.not_eq_true] at h
      simp [Attempt.ofAnswer?, h]
    · rw [← hsuccess] at hstatus
      rw [← Answer.isStream_iff] at htype
      simp [Attempt.ofAnswer?, hstatus, htype]
  · rintro rfl
    cases answer with
    | none => exact .unanswered
    | some a =>
        by_cases hstatus : a.isSuccess = true
        · by_cases htype : a.isStream = true
          · simp only [Attempt.ofAnswer?, hstatus, htype, Bool.and_self, if_true]
            exact .accepted ((hsuccess a).mp hstatus) (a.isStream_iff.mp htype)
          · simp only [Attempt.ofAnswer?, htype, Bool.and_false]
            exact .otherType fun h => htype (a.isStream_iff.mpr h)
        · simp only [Attempt.ofAnswer?, hstatus, Bool.false_and]
          exact .unsuccessful fun h => hstatus ((hsuccess a).mpr h)

theorem forall₂_isOutcome_iff {answers : List (Option Answer)} {attempts : List Attempt} :
    List.Forall₂ IsOutcome answers attempts ↔ answers.map Attempt.ofAnswer? = attempts := by
  have hiff : IsOutcome = fun answer attempt => Attempt.ofAnswer? answer = attempt := by
    funext answer attempt
    exact propext isOutcome_iff
  rw [hiff, ← List.forall₂_map_left_iff, List.forall₂_eq_eq_eq]

/-! ## Requests that are sent -/

def Request.MayName (id : Option String) : Prop := id.all (·.toList.all isHeaderChar) = true

instance (id : Option String) : Decidable (Request.MayName id) :=
  inferInstanceAs (Decidable (_ = true))

namespace ScriptedGateway

/-- Requests for the URL get to the gateway, at the location. -/
structure Reaches (g : ScriptedGateway) (url : String) (l : Location) : Prop where
  location : Location.forRequest url = .ok l
  web : l.isWeb = true
  isAt : g.isAt l = true

def serve (g : ScriptedGateway) (url : String) :
    List (Option String) → ScriptedGateway × List (Option Answer)
  | [] => (g, [])
  | id :: ids =>
    let (g, transfer) := g.connect url id
    let (g, answers) := g.serve url ids
    (g, transfer.toOption :: answers)

variable {g : ScriptedGateway} {url : String} {l : Location}

theorem connect_of_mayName (h : g.Reaches url l) {id : Option String}
    (hid : Request.MayName id) :
    (g.connect url id).1 =
      { g with requests := g.requests ++ [Request.stream (String.ofList l.target) id] } := by
  have hall : id.all (·.toList.all Request.isHeaderChar) = true := hid
  simp only [connect, h.location, h.web, hall, Bool.and_self, if_true, send, h.isAt]

theorem connect_of_not_mayName (g : ScriptedGateway) (url : String) {id : Option String}
    (hid : ¬ Request.MayName id) :
    (g.connect url id).1 = g ∧ (g.connect url id).2.toOption = none := by
  have hall : id.all (·.toList.all Request.isHeaderChar) = false := by
    simpa [Request.MayName] using hid
  unfold connect
  split
  · exact ⟨rfl, rfl⟩
  · rw [hall, Bool.and_false, if_neg (by decide)]
    exact ⟨rfl, rfl⟩

theorem Reaches.connect (h : g.Reaches url l) (id : Option String) :
    (g.connect url id).1.Reaches url l := by
  by_cases hid : Request.MayName id
  · rw [connect_of_mayName h hid]
    exact ⟨h.location, h.web, h.isAt⟩
  · rwa [(g.connect_of_not_mayName url hid).1]

theorem requests_serve (h : g.Reaches url l) {ids : List (Option String)}
    (hids : ∀ id ∈ ids, Request.MayName id) :
    (g.serve url ids).1.requests =
      g.requests ++ ids.map (Request.stream (String.ofList l.target)) := by
  induction ids generalizing g with
  | nil => simp [serve]
  | cons id ids ih =>
      have hrest := ih (h.connect id) fun id' hid' => hids id' (.tail _ hid')
      rw [connect_of_mayName h (hids id (.head _))] at hrest
      simp only [serve, connect_of_mayName h (hids id (.head _)), hrest, List.map_cons,
        List.append_assoc, List.singleton_append]

/-! ### One location -/

def streamLocation : Location where
  scheme := "http".toList
  host := some "gw".toList
  serverNumber := none
  path := "/stream".toList
  query := none
  fragment := none

theorem forRequest_stream : Location.forRequest "http://gw/stream" = .ok streamLocation := by
  decide +kernel

end ScriptedGateway

end TaskMonitor
