import TaskMonitor.Detail.Binder
import TaskMonitor.Stream.Script

/-! # Detail views on a scripted channel -/

namespace TaskMonitor

structure MountedView where
  binder : DetailBinder
  feed : Option Feed

/-- Views, in the order of their mounts, that share a channel. A dropped one leaves a gap. -/
structure DetailSession where
  baseUrl : String
  views : List (Option MountedView)
  channel : ScriptedChannel

namespace DetailSession

def new (baseUrl : String) : DetailSession := ⟨baseUrl, [], .empty⟩

def view? (s : DetailSession) (i : Nat) : Option MountedView := (s.views[i]?).join

def mount (s : DetailSession) (id : TaskId) : DetailSession :=
  { s with views := s.views ++ [some ⟨.mount id ⟨s.views.length⟩ s.baseUrl, none⟩] }

def put (s : DetailSession) (i : Nat) (v : MountedView) (requests : List ChannelRequest) :
    DetailSession :=
  let (channel, feed) := s.channel.serveAll v.feed requests
  { s with views := s.views.set i (some { v with feed := feed }), channel := channel }

def applySnapshot (s : DetailSession) (i : Nat) (v : MountedView) (token : MountToken)
    (result : Except LoadError TaskSnapshot) : DetailSession × Bool :=
  let (b, requests, applied) := v.binder.applySnapshot token result
  (s.put i { v with binder := b } requests, applied)

def next (s : DetailSession) (i : Nat) (v : MountedView) : DetailSession × Bool :=
  match v.feed with
  | none => (s, false)
  | some feed =>
    let (answer, feed) := feed.next
    let receive (answer : Option Signal) :=
      let (b, requests) := v.binder.receive answer
      (s.put i ⟨b, some feed⟩ requests, true)
    match answer with
    | .signal signal => receive (some signal)
    | .ended => receive none
    | .pending => (s, false)

def dispose (s : DetailSession) (i : Nat) (v : MountedView) : DetailSession :=
  let (b, requests) := v.binder.dispose
  s.put i { v with binder := b } requests

def drop (s : DetailSession) (i : Nat) (v : MountedView) : DetailSession :=
  let s := s.dispose i v
  { s with views := s.views.set i none }

def dropAll (s : DetailSession) : DetailSession :=
  (List.range s.views.length).foldl
    (fun s i => match s.view? i with
      | some v => s.drop i v
      | none => s) s

end DetailSession

end TaskMonitor
