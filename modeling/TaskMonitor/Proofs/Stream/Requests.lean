import Mathlib.Data.List.Basic
import TaskMonitor.Stream.Manager

/-! # Orderly requests of the push channel -/

namespace TaskMonitor

namespace ChannelRequest

def isOpen : ChannelRequest → Bool
  | .open _ => true
  | .close => false

def opened (requests : List ChannelRequest) : Nat := requests.countP isOpen

def closed (requests : List ChannelRequest) : Nat := requests.countP (!isOpen ·)

def lastOpened (requests : List ChannelRequest) : Option String :=
  requests.foldl (fun last r => match r with
    | .open url => some url
    | .close => last) none

end ChannelRequest

open ChannelRequest

/-- A subscription is opened only while none is held, and only one that is held is closed. What is
held in the end leads to `held`. -/
inductive Orderly : List ChannelRequest → Option String → Prop where
  | nothing : Orderly [] none
  | opened {requests : List ChannelRequest} {url : String} :
      Orderly requests none → Orderly (requests ++ [.open url]) (some url)
  | closed {requests : List ChannelRequest} {url : String} :
      Orderly requests (some url) → Orderly (requests ++ [.close]) none

namespace Orderly

variable {requests : List ChannelRequest} {held : Option String}

theorem opened_eq (h : Orderly requests held) :
    ChannelRequest.opened requests =
      ChannelRequest.closed requests + if held.isSome then 1 else 0 := by
  induction h with
  | nothing => rfl
  | opened _ ih => simpa [ChannelRequest.opened, ChannelRequest.closed, isOpen] using ih
  | closed _ ih => simpa [ChannelRequest.opened, ChannelRequest.closed, isOpen] using ih

theorem lastOpened_eq {url : String} (h : Orderly requests (some url)) :
    lastOpened requests = some url := by
  cases h
  simp [lastOpened]

end Orderly

@[simp] theorem ChannelRequest.lastOpened_append_close (requests : List ChannelRequest) :
    lastOpened (requests ++ [.close]) = lastOpened requests := by
  simp [lastOpened]

@[simp] theorem ChannelRequest.lastOpened_append_open (requests : List ChannelRequest)
    (url : String) : lastOpened (requests ++ [.open url]) = some url := by
  simp [lastOpened]

end TaskMonitor
