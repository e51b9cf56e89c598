import TaskMonitor.Gateway.Board
import TaskMonitor.Gateway.Call
import TaskMonitor.Proofs.Detail.Lifecycle
import TaskMonitor.Proofs.Json.Fields

/-! # Refusals

An answer that is not a success has an error in its body, or anything else. Whatever the bytes are,
a refused load is reported with its kind and with a text, and the view shows this and nothing
else. -/

namespace TaskMonitor

/-! ## Records of one field -/

namespace Json.Decode

variable {α : Type} {name : String} {room : Nat} {tree : Tree} {value? : Option Tree}

/-- A document is a record with one field, which may be missing: an object with other members
beside it, or an array. -/
inductive Lone (name : String) : Tree → Option Tree → Prop where
  | object {ms : List (TextLiteral × Tree)} {value? : Option Tree}
      (keys : ∀ m ∈ ms, m.1.text?.isSome = true)
      (values : (ms.filter (·.1.text? = some name)).map Prod.snd = value?.toList) :
      Lone name (.object ms) value?
  | array (value? : Option Tree) : Lone name (.array value?.toList) value?

theorem valuesOf_filterMap_named? (name : String) (ms : List (TextLiteral × Tree)) :
    valuesOf name (ms.filterMap named?) =
      (ms.filter (·.1.text? = some name)).map Prod.snd := by
  induction ms with
  | nil => rfl
  | cons m ms ih =>
      cases hkey : m.1.text? with
      | none => simpa [named?, hkey] using ih
      | some key =>
          by_cases hname : key = name
          · simpa [valuesOf, named?, hkey, hname] using ih
          · simpa [valuesOf, named?, hkey, hname] using ih

theorem toList_head? {xs : List α} (h : xs.length ≤ 1) : xs.head?.toList = xs := by
  match xs with
  | [] => rfl
  | [x] => rfl
  | x :: y :: rest => simp at h

theorem once_singleton {fields : List (String × Tree)} :
    Once [name] fields ↔ (valuesOf name fields).length ≤ 1 := List.forall_mem_singleton

theorem lone_of_record {r : Record} (h : record [name] (room + 1) tree = some r) :
    r.room = room ∧ Lone name tree (r.fields.lookup name) := by
  cases tree with
  | object ms =>
      obtain ⟨fields', hread, rfl⟩ := Option.map_eq_some_iff.mp h
      obtain ⟨fields, hkeyed, hfields⟩ := Option.bind_eq_some_iff.mp hread
      obtain ⟨hkeys, rfl⟩ := keyed?_eq_some_iff.mp hkeyed
      obtain ⟨honce, rfl⟩ := fieldsOf?_eq_some_iff.mp hfields
      refine ⟨rfl, .object hkeys ?_⟩
      rw [lookup_filter (by simp), lookup_eq_head?, toList_head? (once_singleton.mp honce),
        valuesOf_filterMap_named?]
  | array items =>
      simp only [record, List.length_singleton] at h
      split at h
      next hlength =>
        obtain rfl := Option.some.inj h
        match items with
        | [] => exact ⟨rfl, .array none⟩
        | [item] => exact ⟨rfl, by simpa using Lone.array (some item)⟩
      next => simp at h
  | _ => simp [record] at h

theorem Lone.record (h : Lone name tree value?) (room : Nat) :
    ∃ fields, record [name] (room + 1) tree = some ⟨room, fields⟩ ∧
      fields.lookup name = value? := by
  cases h with
  | @object ms _ hkeys hvalues =>
      have hvaluesOf := (valuesOf_filterMap_named? name ms).trans hvalues
      have honce : Once [name] (ms.filterMap named?) := by
        rw [once_singleton, hvaluesOf]
        exact Option.length_toList_le
      have hread := fieldsOf?_eq_some_iff.mpr ⟨honce, rfl⟩
      refine ⟨(ms.filterMap named?).filter ([name].contains ·.1), ?_, ?_⟩
      · rw [Decode.record, keyed?_eq_some_iff.mpr ⟨hkeys, rfl⟩, Option.bind_some, hread]
        rfl
      · rw [lookup_filter (by simp), lookup_eq_head?, hvaluesOf, Option.head?_toList]
  | array =>
      cases value? with
      | none => exact ⟨[], rfl, rfl⟩
      | some value => exact ⟨[(name, value)], rfl, by simp⟩

end Json.Decode

/-! ## The gateway's text -/

namespace ClientError

open Json (Tree Decoder TextLiteral)
open Json.Decode (Lone lone_of_record)

/-- The text that the gateway gave: that of the `message` in the `error` of the document, empty
where there is none. -/
inductive GatewayText (body : List UInt8) : String → Prop where
  | given {tree inner : Tree} {literal : TextLiteral} {text : String}
      (document : Tree.ofBytes? body = some tree) (error : Lone "error" tree (some inner))
      (message : Lone "message" inner (some (.text literal))) (read : literal.text? = some text) :
      GatewayText body text
  | missing {tree inner : Tree} (document : Tree.ofBytes? body = some tree)
      (error : Lone "error" tree (some inner)) (message : Lone "message" inner none) :
      GatewayText body ""

variable {body : List UInt8} {text : String}

theorem gatewayText_of_read (h : bodyText.read? body = some text) : GatewayText body text := by
  obtain ⟨tree, hdocument, hread⟩ := Option.bind_eq_some_iff.mp h
  obtain ⟨outer, houter, hfield⟩ := Option.bind_eq_some_iff.mp hread
  obtain ⟨hroom, herror⟩ := lone_of_record houter
  obtain ⟨inner, hinner, hrest⟩ := Option.bind_eq_some_iff.mp hfield
  rw [hinner] at herror
  rw [hroom] at hrest
  obtain ⟨record, hrecord, htext⟩ := Option.bind_eq_some_iff.mp hrest
  obtain ⟨-, hmessage⟩ := lone_of_record hrecord
  cases hfound : record.fields.lookup "message" with
  | none =>
      rw [hfound] at hmessage
      simp only [Json.Decode.Record.fieldOr, hfound] at htext
      exact Option.some.inj htext ▸ .missing hdocument herror hmessage
  | some value =>
      rw [hfound] at hmessage
      simp only [Json.Decode.Record.fieldOr, hfound] at htext
      cases value with
      | text literal => exact .given hdocument herror hmessage htext
      | _ => simp [Json.Decode.text] at htext

theorem bodyText_of_error {tree inner : Tree} (h : Lone "error" tree (some inner)) (room : Nat) :
    bodyText (room + 1) tree = (Json.Decode.record ["message"] room inner).bind
      (·.fieldOr "message" "" Json.Decode.text) := by
  obtain ⟨fields, hrecord, hfound⟩ := h.record room
  simp only [bodyText, hrecord, Json.Decode.Record.field, hfound, Option.bind_eq_bind,
    Option.bind_some]

theorem GatewayText.read (h : GatewayText body text) : bodyText.read? body = some text := by
  have hroom : Json.depthLimit = 125 + 1 + 1 := rfl
  cases h with
  | given hdocument herror hmessage hread =>
      obtain ⟨fields, hrecord, hfound⟩ := hmessage.record 125
      rw [Decoder.read?, hdocument, Option.bind_some, hroom, bodyText_of_error herror, hrecord,
        Option.bind_some]
      simp only [Json.Decode.Record.fieldOr, hfound]
      exact hread
  | missing hdocument herror hmessage =>
      obtain ⟨fields, hrecord, hfound⟩ := hmessage.record 125
      rw [Decoder.read?, hdocument, Option.bind_some, hroom, bodyText_of_error herror, hrecord,
        Option.bind_some]
      simp only [Json.Decode.Record.fieldOr, hfound]

theorem read_bodyText_iff : bodyText.read? body = some text ↔ GatewayText body text :=
  ⟨gatewayText_of_read, GatewayText.read⟩

/-! ## The load's error -/

def statusText (code : Nat) : String := "HTTP " ++ toString code

theorem statusText_ne (code : Nat) : statusText code ≠ "" := by
  intro h
  have htext := congrArg String.toList h
  simp [statusText] at htext

theorem message_ofAnswer_of_given (code : Nat) (h : GatewayText body text) (hne : text ≠ "") :
    (ofAnswer code body).message = text := by
  unfold ofAnswer
  simp only [read_bodyText_iff.mpr h, hne, if_false]
  split <;> rfl

theorem message_ofAnswer_of_none (code : Nat) (h : ∀ text, GatewayText body text → text = "") :
    (ofAnswer code body).message = statusText code := by
  unfold ofAnswer
  split
  next text hread =>
    simp only [h text (read_bodyText_iff.mp hread), if_true]
    split <;> rfl
  next =>
    simp only
    split <;> rfl

theorem message_ofAnswer_ne (code : Nat) (body : List UInt8) :
    (ofAnswer code body).message ≠ "" := by
  by_cases hgiven : ∃ text, GatewayText body text ∧ text ≠ ""
  · obtain ⟨text, htext, hne⟩ := hgiven
    rwa [message_ofAnswer_of_given code htext hne]
  · have hnone : ∀ text, GatewayText body text → text = "" := fun text htext =>
      by_contra fun hne => hgiven ⟨text, htext, hne⟩
    rw [message_ofAnswer_of_none code hnone]
    exact statusText_ne code

theorem message_toLoadError (e : ClientError) : e.toLoadError.message = e.message := by
  cases e <;> rfl

theorem toLoadError_ofAnswer (code : Nat) (body : List UInt8) :
    (ofAnswer code body).toLoadError =
      if code = 404 then .notFound (ofAnswer code body).message
      else .transport (ofAnswer code body).message := by
  by_cases hcode : code = 404 <;> simp only [ofAnswer, hcode, if_true, if_false] <;> rfl

end ClientError

/-- The bytes of an answer, none of them if not all arrived. -/
def Answer.arrived (a : Answer) : List UInt8 := a.body?.getD []

/-- What an error tells of the answer that was not a success. -/
structure Refused (a : Answer) (e : LoadError) : Prop where
  notFound : (∃ text, e = .notFound text) ↔ a.status = 404
  transport : (∃ text, e = .transport text) ↔ a.status ≠ 404
  /-- A text that the gateway gave is kept. -/
  given : ∀ text, ClientError.GatewayText a.arrived text → text ≠ "" → e.message = text
  /-- Without one, or with an empty one, the status is told. -/
  otherwise : (∀ text, ClientError.GatewayText a.arrived text → text = "") →
    e.message = ClientError.statusText a.status
  nonempty : e.message ≠ ""

theorem refused_ofAnswer (a : Answer) :
    Refused a (ClientError.ofAnswer a.status a.arrived).toLoadError := by
  have hmessage := ClientError.message_toLoadError (.ofAnswer a.status a.arrived)
  refine ⟨?_, ?_, ?_, ?_, ?_⟩
  · rw [ClientError.toLoadError_ofAnswer]
    split <;> simp [*]
  · rw [ClientError.toLoadError_ofAnswer]
    split <;> simp [*]
  · intro text hgiven hne
    rw [hmessage, ClientError.message_ofAnswer_of_given a.status hgiven hne]
  · intro hnone
    rw [hmessage, ClientError.message_ofAnswer_of_none a.status hnone]
  · rw [hmessage]
    exact ClientError.message_ofAnswer_ne a.status a.arrived

theorem loadResult_refused {a : Answer} (h : a.isSuccess = false) :
    loadResult (Transfer.snapshot (.ok a)) =
      .error (ClientError.ofAnswer a.status a.arrived).toLoadError := by
  simp only [Transfer.snapshot, Transfer.read, h]
  rfl

/-! ## The view -/

namespace DetailBinder

def errorView (id : TaskId) (e : LoadError) : DetailView where
  taskId := id
  loading := false
  task := none
  events := []
  artifacts := []
  error := some e
  streamStatus := none
  streamEnabled := false

variable {id : TaskId} {token : MountToken} {baseUrl : String} {e : LoadError} {h : History}

/-- A view took an error for its load. It may have been disposed of since. -/
structure TookError (id : TaskId) (token : MountToken) (baseUrl : String) (e : LoadError)
    (h : History) : Prop where
  taken : h.taken = [(token, .error e)]
  requests : h.requests = []
  binder : ∃ disposed, h.binder =
    { mount id token baseUrl with phase := .failed e, disposed := disposed }

namespace TookError

theorem view (hfailed : TookError id token baseUrl e h) : h.binder.view = errorView id e := by
  obtain ⟨disposed, hbinder⟩ := hfailed.binder
  rw [hbinder]
  cases disposed <;> rfl

theorem stream (hfailed : TookError id token baseUrl e h) : h.binder.stream = none := by
  obtain ⟨disposed, hbinder⟩ := hfailed.binder
  rw [hbinder]
  rfl

theorem disposed (hfailed : TookError id token baseUrl e h) :
    TookError id token baseUrl e (h.note h.binder.dispose) := by
  obtain ⟨disposed, hbinder⟩ := hfailed.binder
  have hdispose : h.binder.dispose =
      ({ mount id token baseUrl with phase := .failed e, disposed := true }, []) := by
    rw [hbinder]
    cases disposed <;> rfl
  rw [hdispose]
  exact ⟨hfailed.taken, by simp [History.note, hfailed.requests], true, rfl⟩

theorem perform (hfailed : TookError id token baseUrl e h) (op : Operation) :
    TookError id token baseUrl e (h.perform op) := by
  have hidle : h.binder.isStreaming = false := by simp [isStreaming, hfailed.stream]
  cases hdropped : h.dropped with
  | true => rwa [History.perform_of_dropped hdropped]
  | false =>
      simp only [History.perform, hdropped]
      cases op with
      | apply token' result =>
          obtain ⟨disposed, hbinder⟩ := hfailed.binder
          have hloaded : h.binder.isLoading = false := by rw [hbinder]; rfl
          simpa [applySnapshot_refused (.inr (.inr hloaded)), History.note] using hfailed
      | next answer =>
          cases answer <;> simpa [receive_of_idle hidle, History.note] using hfailed
      | dispose => exact hfailed.disposed
      | drop => exact ⟨hfailed.disposed.taken, hfailed.disposed.requests, hfailed.disposed.binder⟩

theorem performAll (hfailed : TookError id token baseUrl e h) (more : List Operation) :
    TookError id token baseUrl e (h.performAll more) := by
  induction more generalizing h with
  | nil => exact hfailed
  | cons op more ih => exact ih (hfailed.perform op)

end TookError

theorem tookError_run {before : List Operation}
    (hwaiting : (run id token baseUrl before).taken = [])
    (hmounted : before.any Operation.ends = false) (e : LoadError) (more : List Operation) :
    TookError id token baseUrl e
      (run id token baseUrl (before ++ .apply token (.error e) :: more)) := by
  have hs := staged_run id token baseUrl before
  have hdisposed := hs.disposed.trans hmounted
  have hkept : (run id token baseUrl before).dropped = false := by
    by_contra hdropped
    simp [hs.dropped (by simpa using hdropped)] at hdisposed
  obtain ⟨hasked, hbinder⟩ := (hwaiting ▸ hs.stage).eq_mount hdisposed
  have hsplit : run id token baseUrl (before ++ .apply token (.error e) :: more) =
      ((run id token baseUrl before).perform (.apply token (.error e))).performAll more :=
    List.foldl_append
  rw [hsplit]
  apply TookError.performAll
  simp only [History.perform, hkept, hbinder, applySnapshot_error]
  exact ⟨by simp [hwaiting], by simp [History.note, hasked], false, rfl⟩

/-- A refused load is reported with its kind and a text. A view that waits for it then shows this
error, whatever else is done to it, and asks for no stream. -/
theorem refusal_shown {a : Answer} (h : a.isSuccess = false) :
    ∃ e, loadResult (Transfer.snapshot (.ok a)) = .error e ∧ Refused a e ∧
      ∀ (id : TaskId) (token : MountToken) (baseUrl : String) (before more : List Operation),
        (run id token baseUrl before).taken = [] → before.any Operation.ends = false →
        let shown := run id token baseUrl
          (before ++ .apply token (loadResult (Transfer.snapshot (.ok a))) :: more)
        shown.taken = [(token, .error e)] ∧ shown.binder.view = errorView id e ∧
          shown.binder.stream = none ∧ shown.requests = [] := by
  have hload := loadResult_refused h
  refine ⟨_, hload, refused_ofAnswer a, ?_⟩
  intro id token baseUrl before more hwaiting hmounted
  rw [hload]
  have hfailed := tookError_run hwaiting hmounted
    (ClientError.ofAnswer a.status a.arrived).toLoadError more
  exact ⟨hfailed.taken, hfailed.view, hfailed.stream, hfailed.requests⟩

/-- The gateway says that a task is gone, in an error that is an array. -/
def goneAnswer : Answer :=
  ⟨404, none, [Utf8.encode "[[\"gone\"]]".toList], .complete⟩

theorem gone_shown :
    goneAnswer.isSuccess = false ∧
      (run ⟨"t1"⟩ ⟨0⟩ "http://gw" [.apply ⟨0⟩ (loadResult (Transfer.snapshot (.ok goneAnswer))),
        .next .ended]).binder.view = errorView ⟨"t1"⟩ (.notFound "gone") := by
  have hfails : goneAnswer.isSuccess = false := rfl
  obtain ⟨e, hload, -, hshown⟩ := refusal_shown hfails
  have hgone : loadResult (Transfer.snapshot (.ok goneAnswer)) = .error (.notFound "gone") := by
    rfl
  obtain rfl : e = .notFound "gone" := Except.error.inj (hload.symm.trans hgone)
  exact ⟨hfails, (hshown ⟨"t1"⟩ ⟨0⟩ "http://gw" [] [.next .ended] rfl rfl).2.1⟩

end DetailBinder

end TaskMonitor
