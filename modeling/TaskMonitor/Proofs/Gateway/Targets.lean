import TaskMonitor.Gateway.Script
import TaskMonitor.Proofs.Location.Path
import TaskMonitor.Proofs.Text.Utf8
import TaskMonitor.Stream.Manager

/-! # What requests for a task ask for

The id of a task is written behind an address as it is, and the whole is read as a location. Ids
that are a path, and hold no escape, come out of it as other targets each. -/

namespace TaskMonitor

/-- The id, written behind an address, is read as what it is: no part of it is taken for something
else. -/
structure TaskId.IsPlain (id : TaskId) : Prop where
  path : Location.IsPath id.text.toList
  /-- No escape is in it. -/
  literal : Percent.decode id.text.toList = Utf8.encode id.text.toList

instance (id : TaskId) : Decidable id.IsPlain :=
  decidable_of_iff
    (Location.IsPath id.text.toList ∧ Percent.decode id.text.toList = Utf8.encode id.text.toList)
    ⟨fun ⟨hpath, hliteral⟩ => ⟨hpath, hliteral⟩, fun h => ⟨h.path, h.literal⟩⟩

namespace Location

/-- An address is that of a web server, or of a place on it: with a slash at its end it is read as
the root, which no query or fragment follows. -/
structure IsRoot (root : Location) (base : String) : Prop where
  read : forRequest (withoutSlashes base ++ "/") = .ok root
  web : root.isWeb = true
  query : root.query = none
  fragment : root.fragment = none

def AsksFor (root : Location) (place : String) (id : TaskId) (target : String) : Prop :=
  ∃ written, target.toList = root.path ++ place.toList ++ written ∧
    Percent.decode written = Utf8.encode id.text.toList

theorem AsksFor.unique {root : Location} {place target : String} {a b : TaskId}
    (ha : AsksFor root place a target) (hb : AsksFor root place b target) : a = b := by
  obtain ⟨written, htarget, hbytes⟩ := ha
  obtain ⟨written', htarget', hbytes'⟩ := hb
  obtain rfl : written = written' := List.append_cancel_left (htarget.symm.trans htarget')
  have htext : a.text.toList = b.text.toList := by
    rw [← Utf8.decodeFrom_encode a.text.toList, ← hbytes, hbytes', Utf8.decodeFrom_encode]
  exact congrArg TaskId.mk (String.toList_inj.mp htext)

/-! ## Below the root -/

section

variable {root : Location} {base : String}

theorem forRequest_eq_ok {url : String} {l : Location} :
    forRequest url = .ok l ↔ ofText? url.toList = some l ∧ l.hasHost = true := by
  unfold forRequest
  split
  next hnone => simp [hnone]
  next l' hl' =>
    rw [hl', Option.some_inj]
    split
    next hhost =>
      constructor
      · rintro h
        obtain rfl := Except.ok.inj h
        exact ⟨rfl, hhost⟩
      · rintro ⟨rfl, -⟩
        rfl
    next hhost =>
      constructor
      · rintro h
        cases h
      · rintro ⟨rfl, hhost'⟩
        exact (hhost hhost').elim

theorem IsRoot.forRequest_below (h : root.IsRoot base) {text : String}
    (htext : IsPath text.toList) :
    forRequest (withoutSlashes base ++ ("/" ++ text)) = .ok (root.below text.toList) := by
  obtain ⟨hread, hhost⟩ := forRequest_eq_ok.mp h.read
  refine forRequest_eq_ok.mpr ⟨?_, hhost⟩
  rw [String.toList_append] at hread
  rw [String.toList_append, String.toList_append]
  exact ofText?_below hread h.web h.query h.fragment htext

theorem IsRoot.forRequest_id (h : root.IsRoot base) (place : String)
    (hplace : IsPath place.toList) {id : TaskId} (hid : id.IsPlain) :
    forRequest (withoutSlashes base ++ ("/" ++ (place ++ "/") ++ id.text)) =
      .ok (root.below (place ++ "/" ++ id.text).toList) := by
  rw [String.append_assoc]
  apply h.forRequest_below
  rw [String.toList_append, String.toList_append, List.append_assoc]
  exact hplace.append hid.path

theorem IsRoot.location_snapshot (h : root.IsRoot base) {id : TaskId} (hid : id.IsPlain) :
    (GatewayCall.snapshot id).location base =
      .ok (root.below ("api/tasks/" ++ id.text).toList) := by
  have hread : forRequest (withoutSlashes base ++ (GatewayCall.snapshot id).path) =
      .ok (root.below ("api/tasks/" ++ id.text).toList) :=
    h.forRequest_id "api/tasks" (by decide) hid
  have hask : (GatewayCall.snapshot id).ask (root.below ("api/tasks/" ++ id.text).toList) =
      root.below ("api/tasks/" ++ id.text).toList := by
    rw [GatewayCall.ask, dropEmptyQuery, below, h.query]
    rfl
  have hweb : (root.below ("api/tasks/" ++ id.text).toList).isWeb = true := h.web
  simp only [GatewayCall.location, hread, bind, Except.bind, hask, if_pos hweb]
  rfl

theorem IsRoot.forRequest_streamUrl (h : root.IsRoot base) {id : TaskId} (hid : id.IsPlain)
    (α : Type) :
    forRequest ((StreamManager.new base : StreamManager α).streamUrl id) =
      .ok (root.below ("api/stream/task/" ++ id.text).toList) := by
  rw [StreamManager.streamUrl, String.append_assoc]
  exact h.forRequest_id "api/stream/task" (by decide) hid

theorem IsRoot.asksFor (h : root.IsRoot base) {place : String}
    (hplace : Percent.encode Percent.pathSet place.toList = place.toList) {id : TaskId}
    (hid : id.IsPlain) :
    root.AsksFor place id (String.ofList (root.below (place ++ id.text).toList).target) := by
  refine ⟨Percent.encode Percent.pathSet id.text.toList, ?_, ?_⟩
  · rw [String.toList_ofList, target, below, h.query, String.toList_append, Percent.encode_append,
      hplace, marked, List.append_nil, List.append_assoc]
  · rw [Percent.decode_encode Percent.keepsEscapes_pathSet, hid.literal]

end

end Location

/-! ## The requests for a task -/

namespace ScriptedGateway

variable {g : ScriptedGateway} {base : String} {root : Location} {lastEventId : Option String}

/-- What a gateway is sent when the snapshot of a task is loaded, and when its events are
followed. -/
structure IsAsked (g : ScriptedGateway) (base : String) (root : Location)
    (lastEventId : Option String) (id : TaskId) (loaded followed : String) : Prop where
  load : (g.call base (.snapshot id)).1.requests = g.requests ++ [.plain loaded]
  follow (α : Type) :
    (g.connect ((StreamManager.new base : StreamManager α).streamUrl id) lastEventId).1.requests =
      g.requests ++ [.stream followed lastEventId]
  loaded_under : root.AsksFor "api/tasks/" id loaded
  followed_under : root.AsksFor "api/stream/task/" id followed

theorem requests_call_of_isAt {c : GatewayCall} {l : Location} (hl : c.location base = .ok l)
    (hat : g.isAt l = true) :
    (g.call base c).1.requests = g.requests ++ [.plain (String.ofList l.target)] := by
  simp only [call, hl, send, if_pos hat]

theorem requests_connect_of_isAt {url : String} {l : Location}
    (hl : Location.forRequest url = .ok l) (hweb : l.isWeb = true)
    (hheader : lastEventId.all (fun id => id.toList.all Request.isHeaderChar) = true)
    (hat : g.isAt l = true) :
    (g.connect url lastEventId).1.requests =
      g.requests ++ [.stream (String.ofList l.target) lastEventId] := by
  simp only [connect, hl, hweb, hheader, Bool.and_true, if_true, send, if_pos hat]

theorem isAsked (hroot : root.IsRoot base) (hat : g.isAt root = true)
    (hheader : lastEventId.all (fun id => id.toList.all Request.isHeaderChar) = true) {id : TaskId}
    (hid : id.IsPlain) : ∃ loaded followed, g.IsAsked base root lastEventId id loaded followed :=
  ⟨_, _,
    { load := requests_call_of_isAt (hroot.location_snapshot hid) hat
      follow := fun α =>
        requests_connect_of_isAt (hroot.forRequest_streamUrl hid α) hroot.web hheader hat
      loaded_under := hroot.asksFor rfl hid
      followed_under := hroot.asksFor rfl hid }⟩

/-- On a web server whose address has no query and no fragment, every two tasks with plain ids are
asked for by other targets, each that of the bytes of its id: their snapshots, and their streams. -/
theorem targets_ne (hroot : root.IsRoot base) (hat : g.isAt root = true)
    (hheader : lastEventId.all (fun id => id.toList.all Request.isHeaderChar) = true)
    {a b : TaskId} (ha : a.IsPlain) (hb : b.IsPlain) (hne : a ≠ b) :
    ∃ loadedA followedA loadedB followedB,
      g.IsAsked base root lastEventId a loadedA followedA ∧
      g.IsAsked base root lastEventId b loadedB followedB ∧
      loadedA ≠ loadedB ∧ followedA ≠ followedB := by
  obtain ⟨loadedA, followedA, hA⟩ := isAsked hroot hat hheader ha
  obtain ⟨loadedB, followedB, hB⟩ := isAsked hroot hat hheader hb
  refine ⟨loadedA, followedA, loadedB, followedB, hA, hB, ?_, ?_⟩
  · rintro rfl
    exact hne (hA.loaded_under.unique hB.loaded_under)
  · rintro rfl
    exact hne (hA.followed_under.unique hB.followed_under)

theorem blank_targets_ne :
    ∃ loadedA followedA loadedB followedB,
      IsAsked ⟨some "gw", [], []⟩ "http://gw/v1/"
        ⟨"http".toList, some "gw".toList, none, "/v1/".toList, none, none⟩ none
        ⟨"t 1"⟩ loadedA followedA ∧
      IsAsked ⟨some "gw", [], []⟩ "http://gw/v1/"
        ⟨"http".toList, some "gw".toList, none, "/v1/".toList, none, none⟩ none
        ⟨"t/é"⟩ loadedB followedB ∧
      loadedA ≠ loadedB ∧ followedA ≠ followedB :=
  targets_ne ⟨by decide +kernel, by decide, rfl, rfl⟩ (by decide) (by decide) (by decide +kernel)
    (by decide +kernel) (by decide)

/-- What follows a hash mark is not sent, and two dots take a segment back: other ids, the same
requests. -/
theorem hash_targets_eq :
    (⟨"t1"⟩ : TaskId) ≠ ⟨"t1#x"⟩ ∧ (⟨"t1"⟩ : TaskId) ≠ ⟨"x/../t1"⟩ ∧
    ∀ id ∈ ([⟨"t1"⟩, ⟨"t1#x"⟩, ⟨"x/../t1"⟩] : List TaskId),
      (call ⟨some "gw", [], []⟩ "http://gw" (.snapshot id)).1.requests =
        [.plain "/api/tasks/t1"] ∧
      (connect ⟨some "gw", [], []⟩
          ((StreamManager.new "http://gw" : StreamManager Unit).streamUrl id) none).1.requests =
        [.stream "/api/stream/task/t1" none] := by
  decide +kernel

end ScriptedGateway

end TaskMonitor
