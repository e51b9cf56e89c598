import TaskMonitor.Proofs.Stream.Connecting
import TaskMonitor.Proofs.Stream.Subscription

/-! # What a subscription answers, call by call

Attempt after attempt, a subscription hands out the messages of the bytes that it received, until it
is refused. What it received decides the next request and the delay before it. -/

namespace TaskMonitor

open EventStream (Frame)

structure Dialled where
  /-- How long was waited for it, in milliseconds. -/
  delay : Nat
  lastEventId : Option String
  deriving DecidableEq, Repr

structure SignalCall where
  reading : Reading
  dialled : Option Dialled
  deriving DecidableEq, Repr

/-! ## Calls -/

namespace Subscription

/-- Asks for the next signal, when these answers come to the requests for it. A request that cannot
be sent fails. It is not known what comes of a request beyond them. -/
def next (s : Subscription) (answers : List (Option Answer)) :
    Option (SignalCall × Subscription × List (Option Answer)) :=
  match s.delay?, answers with
  | none, _ => some (⟨s.read.1, none⟩, s.read.2, answers)
  | some _, [] => none
  | some delay, answer :: rest =>
    let (x, dialled) := s.connected (if s.mayAsk then .ofAnswer? answer else .failed)
    some (⟨.signal x, some ⟨delay, s.lastEventId⟩⟩, dialled, rest)

def calls (s : Subscription) (answers : List (Option Answer)) : Nat → List SignalCall
  | 0 => []
  | n + 1 =>
    match s.next answers with
    | none => []
    | some (c, s, answers) => c :: s.calls answers n

end Subscription

/-! ## Attempts -/

namespace Attempt

def frames : Attempt → List Frame
  | .accepted chunks _ => EventStream.frames chunks.flatten
  | _ => []

def outcome : Attempt → Signal
  | .failed => .interrupted
  | .refused => .refused
  | .accepted _ _ => .opened

def following : Attempt → List Signal
  | .accepted chunks ending =>
    ((EventStream.frames chunks.flatten).filter (·.data ≠ "")).map
      (fun f => .message (f.event.getD "message") f.data) ++ ending.signals
  | _ => []

/-- What is answered for ever after an attempt that no other one follows. -/
def rest? : Attempt → Option Reading
  | .refused => some .ended
  | .accepted _ .held => some .silent
  | _ => none

/-- The ids of the frames that the attempt received can be sent. -/
def SendsIds (a : Attempt) : Prop :=
  ∀ f ∈ a.frames, Request.MayName f.id

instance (a : Attempt) : Decidable a.SendsIds :=
  inferInstanceAs (Decidable (∀ f ∈ a.frames, _))

def calls (a : Attempt) (dialled : Dialled) : List SignalCall :=
  ⟨.signal a.outcome, some dialled⟩ :: a.following.map fun x => ⟨.signal x, none⟩

end Attempt

/-- How the attempt after earlier ones is made. The first one is made at once; each other one waits
for the delay that was received last. -/
def dialAfter (retry : Nat) (earlier : List Attempt) : Dialled where
  delay :=
    if earlier = [] then 0
    else ((earlier.flatMap Attempt.frames).filterMap (·.retry)).getLast?.getD retry
  lastEventId := ((earlier.flatMap Attempt.frames).filterMap (·.id)).getLast?

def transcript (retry : Nat) (earlier : List Attempt) : List Attempt → List SignalCall
  | [] => []
  | a :: rest =>
    a.calls (dialAfter retry earlier) ++
      if a.rest?.isSome then [] else transcript retry (earlier ++ [a]) rest

/-- What is answered for ever after the attempts, if one of them was the last. -/
def silence (attempts : List Attempt) (n : Nat) : List SignalCall :=
  match attempts.findSome? Attempt.rest? with
  | some reading => List.replicate n ⟨reading, none⟩
  | none => []

def namedIds (calls : List SignalCall) : List (Option String) :=
  (calls.filterMap (·.dialled)).map (·.lastEventId)

namespace Subscription

/-! ## Calls that make no connection -/

theorem delay?_of_read {s s' : Subscription} {x : Signal} (h : s.read = (.signal x, s')) :
    s.delay? = none := by
  obtain ⟨url, retry, lastEventId, connection, pending⟩ := s
  cases pending with
  | cons y more => rfl
  | nil =>
      cases connection with
      | waiting delay => simp [read] at h
      | reading decoder chunks ending => rfl
      | closed => rfl

theorem calls_of_signal {s s' : Subscription} {x : Signal} (h : s.read = (.signal x, s'))
    (answers : List (Option Answer)) (n : Nat) :
    s.calls answers (n + 1) = ⟨.signal x, none⟩ :: s'.calls answers n := by
  simp only [calls, next, delay?_of_read h, h]

theorem readFrom_quiet {s s' : Subscription} {decoder : EventStream.Decoder} {ending : Ending}
    {chunks : List (List UInt8)} {r : Reading} (hpending : s.pending = [])
    (h : s.readFrom decoder ending chunks = (r, s')) (hr : ∀ x, r ≠ .signal x) :
    r = .silent ∧ s'.pending = [] ∧ ∃ decoder', s'.connection = .reading decoder' [] .held := by
  induction chunks generalizing s decoder with
  | nil =>
      by_cases hending : ending = .held
      · simp only [readFrom, hending, if_true, Prod.mk.injEq] at h
        obtain ⟨rfl, rfl⟩ := h
        exact ⟨rfl, hpending, decoder, rfl⟩
      · simp only [readFrom, hending, if_false, Prod.mk.injEq] at h
        exact absurd h.1.symm (hr .interrupted)
  | cons chunk rest ih =>
      simp only [readFrom] at h
      split at h
      next x more _ => exact absurd (congrArg (·.1) h).symm (hr x)
      next hnone => exact ih hnone h

/-- Where nothing more is read without a connection, reading again changes nothing. -/
theorem read_of_quiet {s s' : Subscription} {r : Reading} (h : s.read = (r, s'))
    (hr : ∀ x, r ≠ .signal x) :
    s' = s ∨ s.delay? = none ∧ s'.delay? = none ∧ s'.read = s.read := by
  obtain ⟨url, retry, lastEventId, connection, pending⟩ := s
  cases pending with
  | cons y more => exact absurd (congrArg (·.1) h).symm (hr y)
  | nil =>
      cases connection with
      | waiting delay => exact .inl (Prod.mk.inj h).2.symm
      | closed => exact .inl (Prod.mk.inj h).2.symm
      | reading decoder chunks ending =>
          have hread : readFrom ⟨url, retry, lastEventId, .reading decoder chunks ending, []⟩
              decoder ending chunks = (r, s') := h
          obtain ⟨rfl, hpending, decoder', hconnection⟩ := readFrom_quiet rfl hread hr
          obtain ⟨url', retry', lastEventId', connection', pending'⟩ := s'
          subst hpending hconnection
          exact .inr ⟨rfl, rfl, h.symm⟩

theorem next_of_quiet {s s' : Subscription} {r : Reading} (h : s.read = (r, s'))
    (hr : ∀ x, r ≠ .signal x) (answers : List (Option Answer)) :
    s'.next answers = s.next answers := by
  rcases read_of_quiet h hr with rfl | ⟨hdelay, hdelay', hread⟩
  · rfl
  · simp only [next, hdelay, hdelay', hread]

theorem calls_drain (s : Subscription) (answers : List (Option Answer)) (n : Nat) :
    s.calls answers n =
      (s.drain.1.map fun x => (⟨.signal x, none⟩ : SignalCall)).take n ++
        s.drain.2.calls answers (n - s.drain.1.length) := by
  fun_induction drain s generalizing n with
  | case1 s x s' h ih =>
      cases n with
      | zero => simp [calls]
      | succ n =>
          rw [calls_of_signal h, ih]
          simp
  | case2 s s' r hr h =>
      cases n with
      | zero => rfl
      | succ n => simp [calls, next_of_quiet h hr]

/-! ## Calls that make a connection -/

/-- The subscription is about to connect, as it does after the earlier attempts. -/
structure Waits (retry : Nat) (earlier : List Attempt) (s : Subscription) : Prop where
  pending : s.pending = []
  connection : s.connection = .waiting (dialAfter retry earlier).delay
  lastEventId : s.lastEventId = (dialAfter retry earlier).lastEventId
  retry : s.retry = ((earlier.flatMap Attempt.frames).filterMap (·.retry)).getLast?.getD retry
  asks : s.mayAsk = true

theorem waits_start (url : String) (retry : Nat) : Waits retry [] (.start url retry) :=
  ⟨rfl, rfl, rfl, rfl, rfl⟩

theorem Waits.delay? {retry : Nat} {earlier : List Attempt} {s : Subscription}
    (h : Waits retry earlier s) : s.delay? = some (dialAfter retry earlier).delay := by
  simp [Subscription.delay?, h.pending, h.connection]

theorem dial_refused {s : Subscription} (h : s.pending = []) (hask : s.mayAsk = true) :
    s.dial .refused = ([.refused], { s with connection := .closed }) := by
  obtain ⟨url, retry, lastEventId, connection, pending⟩ := s
  subst h
  have hdrain : drain ⟨url, retry, lastEventId, .closed, []⟩ =
      ([], ⟨url, retry, lastEventId, .closed, []⟩) := by
    rw [drain]
    rfl
  simp only [dial, hask, if_true, connected, hdrain]

theorem filterMap_message? (fs : List Frame) :
    fs.filterMap message? =
      (fs.filter (·.data ≠ "")).map fun f => .message (f.event.getD "message") f.data := by
  induction fs with
  | nil => rfl
  | cons f fs ih =>
      rw [List.filterMap_cons, List.filter_cons, ih]
      by_cases hdata : f.data = ""
      · simp [message?, Frame.hasData, hdata]
      · simp [message?, Frame.hasData, hdata, Frame.channel, Frame.defaultChannel]

theorem dial_fst {retry : Nat} {earlier : List Attempt} {s : Subscription}
    (h : Waits retry earlier s) (a : Attempt) : (s.dial a).1 = a.outcome :: a.following := by
  cases a with
  | failed => rw [dial_failed h.pending]; rfl
  | refused => rw [dial_refused h.pending h.asks]; rfl
  | accepted chunks ending =>
      rw [dial_accepted h.pending h.asks, filterMap_message?]
      rfl

theorem calls_dial {retry : Nat} {earlier : List Attempt} {s : Subscription}
    (h : Waits retry earlier s) (answer : Option Answer) (answers : List (Option Answer))
    (n : Nat) :
    s.calls (answer :: answers) n =
      ((Attempt.ofAnswer? answer).calls (dialAfter retry earlier)).take n ++
        (s.dial (.ofAnswer? answer)).2.calls answers
          (n - ((Attempt.ofAnswer? answer).calls (dialAfter retry earlier)).length) := by
  cases n with
  | zero => simp [calls]
  | succ n =>
      have hdial : s.dial (.ofAnswer? answer) =
          ((s.connected (.ofAnswer? answer)).1 :: (s.connected (.ofAnswer? answer)).2.drain.1,
            (s.connected (.ofAnswer? answer)).2.drain.2) := by
        simp only [dial, h.asks, if_true]
      have hsignals := dial_fst h (.ofAnswer? answer)
      rw [hdial] at hsignals ⊢
      obtain ⟨houtcome, hfollowing⟩ := List.cons.inj hsignals
      simp only [calls, next, h.delay?, h.asks, if_true, h.lastEventId]
      rw [calls_drain, houtcome, hfollowing]
      simp [Attempt.calls]

theorem mayName_lastId {fs : List Frame} {before : Option String}
    (hbefore : Request.MayName before) (hids : ∀ f ∈ fs, Request.MayName f.id) :
    Request.MayName (lastId fs before) := by
  unfold lastId
  cases hlast : (fs.filterMap (·.id)).getLast? with
  | none => exact hbefore
  | some id =>
      obtain ⟨f, hf, hid⟩ := List.mem_filterMap.mp (List.mem_of_getLast? hlast)
      have hlegal := hids f hf
      rwa [hid] at hlegal

theorem dial_snd {retry : Nat} {earlier : List Attempt} {s : Subscription}
    (h : Waits retry earlier s) {a : Attempt} (hrest : a.rest? = none) :
    (s.dial a).2 = (s.after a.frames).interrupt := by
  have hpending := h.pending
  cases a with
  | failed =>
      rw [dial_failed hpending]
      obtain ⟨url, retry, lastEventId, connection, pending⟩ := s
      subst hpending
      rfl
  | refused => simp [Attempt.rest?] at hrest
  | accepted chunks ending =>
      rw [dial_accepted hpending h.asks]
      cases ending with
      | held => simp [Attempt.rest?] at hrest
      | complete => rfl
      | broken => rfl

/-- After an attempt that another one follows, the subscription is about to connect again. -/
theorem Waits.dial {retry : Nat} {earlier : List Attempt} {s : Subscription}
    (h : Waits retry earlier s) {a : Attempt} (hids : a.SendsIds) (hrest : a.rest? = none) :
    Waits retry (earlier ++ [a]) (s.dial a).2 := by
  have hretry : (s.after a.frames).retry =
      (((earlier ++ [a]).flatMap Attempt.frames).filterMap (·.retry)).getLast?.getD retry := by
    simp only [after, absorbAll_eq, h.retry, List.flatMap_append, List.flatMap_singleton,
      List.filterMap_append, List.getLast?_append, Option.getD_or]
  have hid : (s.after a.frames).lastEventId = (dialAfter retry (earlier ++ [a])).lastEventId := by
    simp only [after_lastEventId, lastId, h.lastEventId, dialAfter, List.flatMap_append,
      List.flatMap_singleton, List.filterMap_append, List.getLast?_append]
  rw [dial_snd h hrest]
  refine ⟨rfl, ?_, hid, hretry, ?_⟩
  · simp [interrupt, dialAfter, hretry]
  · have hask := mayName_lastId h.asks hids
    rw [← after_lastEventId] at hask
    exact hask

/-! ## Calls after the last attempt -/

theorem calls_rest {s : Subscription} {r : Reading} (hdelay : s.delay? = none)
    (hread : s.read = (r, s)) (answers : List (Option Answer)) (n : Nat) :
    s.calls answers n = List.replicate n ⟨r, none⟩ := by
  induction n with
  | zero => rfl
  | succ n ih => simp only [calls, next, hdelay, hread, ih, List.replicate_succ]

theorem calls_dial_last {retry : Nat} {earlier : List Attempt} {s : Subscription}
    (h : Waits retry earlier s) {a : Attempt} {r : Reading} (hrest : a.rest? = some r)
    (answers : List (Option Answer)) (n : Nat) :
    (s.dial a).2.calls answers n = List.replicate n ⟨r, none⟩ := by
  have hpending := h.pending
  cases a with
  | failed => simp [Attempt.rest?] at hrest
  | refused =>
      obtain rfl : Reading.ended = r := by simpa [Attempt.rest?] using hrest
      rw [dial_refused hpending h.asks]
      apply calls_rest
      · simp [delay?, hpending]
      · simp [read, hpending]
  | accepted chunks ending =>
      cases ending with
      | held =>
          obtain rfl : Reading.silent = r := by simpa [Attempt.rest?] using hrest
          rw [dial_accepted hpending h.asks]
          exact calls_rest rfl rfl answers n
      | complete => simp [Attempt.rest?] at hrest
      | broken => simp [Attempt.rest?] at hrest

/-! ## All calls -/

theorem calls_waits {retry : Nat} {earlier : List Attempt} {s : Subscription}
    (h : Waits retry earlier s) {answers : List (Option Answer)} {attempts : List Attempt}
    (houtcomes : List.Forall₂ IsOutcome answers attempts) (hids : ∀ a ∈ attempts, a.SendsIds)
    (n : Nat) :
    s.calls answers n =
      (transcript retry earlier attempts).take n ++
        silence attempts (n - (transcript retry earlier attempts).length) := by
  induction houtcomes generalizing earlier s n with
  | nil =>
      cases n with
      | zero => rfl
      | succ n => simp [calls, next, h.delay?, transcript, silence]
  | @cons answer a answers rest houtcome _ ih =>
      obtain rfl := isOutcome_iff.mp houtcome
      rw [calls_dial h answer answers n]
      cases hrest : (Attempt.ofAnswer? answer).rest? with
      | some r => simp [calls_dial_last h hrest, transcript, hrest, silence]
      | none =>
          have hnext := h.dial (hids _ (.head _)) hrest
          rw [ih hnext fun b hb => hids b (.tail _ hb)]
          simp [transcript, hrest, silence, List.take_append, Nat.sub_sub]

/-! ## Named ids -/

theorem namedIds_append (calls more : List SignalCall) :
    namedIds (calls ++ more) = namedIds calls ++ namedIds more := by
  simp [namedIds]

theorem namedIds_calls (a : Attempt) (dialled : Dialled) :
    namedIds (a.calls dialled) = [dialled.lastEventId] := by
  simp [namedIds, Attempt.calls, List.filterMap_map]

theorem namedIds_silence (attempts : List Attempt) (n : Nat) :
    namedIds (silence attempts n) = [] := by
  unfold silence
  split
  · simp [namedIds]
  · rfl

theorem mayName_dialAfter (retry : Nat) {earlier : List Attempt}
    (hids : ∀ a ∈ earlier, a.SendsIds) : Request.MayName (dialAfter retry earlier).lastEventId := by
  have hlast : (dialAfter retry earlier).lastEventId =
      lastId (earlier.flatMap Attempt.frames) none := by
    simp [dialAfter, lastId]
  have hnone : Request.MayName none := by decide
  rw [hlast]
  apply mayName_lastId hnone
  intro f hf
  obtain ⟨a, ha, hf⟩ := List.mem_flatMap.mp hf
  exact hids a ha f hf

theorem mayName_transcript (retry : Nat) {earlier attempts : List Attempt}
    (hearlier : ∀ a ∈ earlier, a.SendsIds) (hids : ∀ a ∈ attempts, a.SendsIds) :
    ∀ id ∈ namedIds (transcript retry earlier attempts), Request.MayName id := by
  induction attempts generalizing earlier with
  | nil => simp [transcript, namedIds]
  | cons a rest ih =>
      have ha : a.SendsIds := hids a (.head _)
      intro id hid
      rw [transcript, namedIds_append, namedIds_calls] at hid
      rcases List.mem_append.mp hid with hid | hid
      · rw [List.mem_singleton.mp hid]
        exact mayName_dialAfter retry hearlier
      · split at hid
        · simp [namedIds] at hid
        · refine ih ?_ (fun b hb => hids b (.tail _ hb)) id hid
          intro b hb
          rcases List.mem_append.mp hb with hb | hb
          · exact hearlier b hb
          · rwa [List.mem_singleton.mp hb]

/-! ## The URL -/

theorem url_readFrom (s : Subscription) (decoder : EventStream.Decoder) (ending : Ending)
    (chunks : List (List UInt8)) : (s.readFrom decoder ending chunks).2.url = s.url := by
  induction chunks generalizing s decoder with
  | nil => by_cases hending : ending = .held <;> simp [readFrom, hending, interrupt]
  | cons chunk rest ih =>
      have habsorbed : (s.absorbAll (decoder.push chunk).2).url = s.url := by
        rw [absorbAll_eq]
      simp only [readFrom]
      split
      · exact habsorbed
      · exact (ih _ _).trans habsorbed

theorem url_read (s : Subscription) : s.read.2.url = s.url := by
  unfold read
  split
  · rfl
  · exact url_readFrom s _ _ _
  · rfl
  · rfl

theorem url_connected (s : Subscription) (a : Attempt) : (s.connected a).2.url = s.url := by
  cases a <;> rfl

end Subscription

/-! ## Gateways -/

namespace ScriptedGateway

/-- Asks a subscription for signals, one after the other. -/
def ask (g : ScriptedGateway) (s : Subscription) : Nat → ScriptedGateway × List SignalCall
  | 0 => (g, [])
  | n + 1 =>
    let (g, s', reading, waited) := g.next s
    let (g, more) := g.ask s' n
    (g, ⟨reading, s.delay?.map fun _ => ⟨waited, s.lastEventId⟩⟩ :: more)

theorem ask_dial (g : ScriptedGateway) {s : Subscription} {delay : Nat}
    (h : s.delay? = some delay) (n : Nat) :
    let dialled := s.connected (.ofAnswer? (g.connect s.url s.lastEventId).2.toOption)
    g.ask s (n + 1) =
      (((g.connect s.url s.lastEventId).1.ask dialled.2 n).1,
        ⟨.signal dialled.1, some ⟨delay, s.lastEventId⟩⟩ ::
          ((g.connect s.url s.lastEventId).1.ask dialled.2 n).2) := by
  simp [ask, next, h]

theorem ofAnswer?_connect (g : ScriptedGateway) (s : Subscription) :
    let answer := (g.connect s.url s.lastEventId).2.toOption
    (if s.mayAsk then Attempt.ofAnswer? answer else .failed) = .ofAnswer? answer := by
  intro answer
  by_cases hask : s.mayAsk = true
  · rw [if_pos hask]
  · have hnone : answer = none := (g.connect_of_not_mayName s.url hask).2
    rw [if_neg hask, hnone]
    rfl

/-- A subscription answers by what the gateway answers to the requests that it makes. -/
theorem ask_eq_calls (g : ScriptedGateway) (s : Subscription) (n : Nat) :
    let served := g.serve s.url (namedIds (g.ask s n).2)
    (g.ask s n).1 = served.1 ∧ (g.ask s n).2 = s.calls served.2 n := by
  induction n generalizing g s with
  | zero => exact ⟨rfl, rfl⟩
  | succ n ih =>
      cases hdelay : s.delay? with
      | none =>
          have hask : g.ask s (n + 1) =
              ((g.ask s.read.2 n).1, ⟨s.read.1, none⟩ :: (g.ask s.read.2 n).2) := by
            simp [ask, next, hdelay]
          obtain ⟨hgateway, hcalls⟩ := ih g s.read.2
          rw [Subscription.url_read] at hgateway hcalls
          rw [hask]
          refine ⟨hgateway, ?_⟩
          simp only [Subscription.calls, Subscription.next, hdelay]
          exact congrArg _ hcalls
      | some delay =>
          have hask := g.ask_dial hdelay n
          obtain ⟨hgateway, hcalls⟩ := ih (g.connect s.url s.lastEventId).1
            (s.connected (.ofAnswer? (g.connect s.url s.lastEventId).2.toOption)).2
          rw [Subscription.url_connected] at hgateway hcalls
          rw [hask]
          refine ⟨hgateway, ?_⟩
          simp only [namedIds, List.filterMap_cons, List.map_cons, serve, Subscription.calls,
            Subscription.next, hdelay, ofAnswer?_connect]
          exact congrArg _ hcalls

end ScriptedGateway

namespace Subscription

/-! ## The whole run -/

/-- What a subscription to a URL answers, call by call. -/
structure CallSpec (url : String) (retry : Nat) : Prop where
  outcomes : ∀ answers, ∃ attempts, List.Forall₂ IsOutcome answers attempts
  /-- A network failure is an interruption. An answer with an event stream brings the messages of
  its own bytes and then an interruption. After a refusal nothing comes any more. Each request names
  the last id that was received before it, and waits for the last delay. -/
  answered : ∀ {answers attempts}, List.Forall₂ IsOutcome answers attempts →
    (∀ a ∈ attempts, a.SendsIds) → ∀ n, (start url retry).calls answers n =
      (transcript retry [] attempts).take n ++
        silence attempts (n - (transcript retry [] attempts).length)
  /-- On any gateway, the answers are those to the requests of the calls. -/
  asked : ∀ (g : ScriptedGateway) n,
    let calls := (g.ask (start url retry) n).2
    let served := g.serve url (namedIds calls)
    (g.ask (start url retry) n).1 = served.1 ∧ calls = (start url retry).calls served.2 n
  /-- A gateway that is reached sees these requests, and no others. -/
  requested : ∀ {g : ScriptedGateway} {l}, g.Reaches url l → ∀ n,
    let ids := namedIds (g.ask (start url retry) n).2
    ∀ attempts, List.Forall₂ IsOutcome (g.serve url ids).2 attempts →
      (∀ a ∈ attempts, a.SendsIds) → (g.ask (start url retry) n).1.requests =
        g.requests ++ ids.map (Request.stream (String.ofList l.target))
  /-- A subscription that is given up answers nothing any more, and makes no request. -/
  closed : ∀ (s : Subscription) answers n, s.close.calls answers n = List.replicate n ⟨.ended, none⟩

theorem calls_start (url : String) (retry : Nat) : CallSpec url retry where
  outcomes answers := ⟨_, forall₂_isOutcome_iff.mpr rfl⟩
  answered houtcomes hids n := calls_waits (waits_start url retry) houtcomes hids n
  asked g n := g.ask_eq_calls (start url retry) n
  requested := by
    intro g l hreaches n ids attempts houtcomes hids
    obtain ⟨hgateway, hcalls⟩ := g.ask_eq_calls (start url retry) n
    have hanswered := hcalls.trans (calls_waits (waits_start url retry) houtcomes hids n)
    rw [hgateway]
    apply ScriptedGateway.requests_serve hreaches
    intro id hid
    have hfirst : id ∈ namedIds ((transcript retry [] attempts).take n) := by
      simpa only [ids, hanswered, namedIds_append, namedIds_silence, List.append_nil] using hid
    have hnamed : id ∈ namedIds (transcript retry [] attempts) :=
      (((List.take_sublist n _).filterMap _).map _).subset hfirst
    exact mayName_transcript retry (by simp) hids id hnamed
  closed s answers n := calls_rest rfl rfl answers n

/-! ### Three outcomes -/

def streamed : Answer where
  status := 200
  contentType := some "text/event-stream; charset=utf-8"
  chunks := [Utf8.encode "id: e1\nretry: 2".toList, Utf8.encode "0\ndata: x\n\n".toList]
  ending := .broken

def refusals : List Answer :=
  [⟨503, some "text/event-stream", [], .complete⟩, ⟨200, some "text/html", [], .complete⟩]

/-- A gateway that closes the connection first, and then answers. -/
def answering (refusal : Answer) : ScriptedGateway where
  host := some "gw"
  replies := [("/stream", [.dropped, .answer streamed, .answer refusal])]
  requests := []

theorem served_answering : ∀ refusal ∈ refusals,
    namedIds ((answering refusal).ask (start "http://gw/stream" 3000) 7).2 =
        [none, none, some "e1"] ∧
      ((answering refusal).serve "http://gw/stream" [none, none, some "e1"]).2 =
        [none, some streamed, some refusal] := by
  decide +kernel

def threeOutcomes : List Attempt :=
  [.failed, .accepted streamed.chunks .broken, .refused]

theorem calls_threeOutcomes :
    ∀ refusal ∈ refusals,
      (answering refusal).Reaches "http://gw/stream" ScriptedGateway.streamLocation ∧
      List.Forall₂ IsOutcome [none, some streamed, some refusal] threeOutcomes ∧
      (∀ a ∈ threeOutcomes, a.SendsIds) ∧
      (start "http://gw/stream" 3000).calls [none, some streamed, some refusal] 7 =
        [⟨.signal .interrupted, some ⟨0, none⟩⟩, ⟨.signal .opened, some ⟨3000, none⟩⟩,
          ⟨.signal (.message "message" "x"), none⟩, ⟨.signal .interrupted, none⟩,
          ⟨.signal .refused, some ⟨20, some "e1"⟩⟩, ⟨.ended, none⟩, ⟨.ended, none⟩] ∧
      ((answering refusal).ask (start "http://gw/stream" 3000) 7).1.requests =
        [Request.stream "/stream" none, Request.stream "/stream" none,
          Request.stream "/stream" (some "e1")] := by
  intro refusal hrefusal
  have hspec := calls_start "http://gw/stream" 3000
  have hreaches : (answering refusal).Reaches "http://gw/stream" ScriptedGateway.streamLocation :=
    ⟨ScriptedGateway.forRequest_stream, rfl, rfl⟩
  have hrefused : ∀ a ∈ refusals, Attempt.ofAnswer? (some a) = .refused := by decide
  have houtcomes : List.Forall₂ IsOutcome [none, some streamed, some refusal] threeOutcomes := by
    rw [forall₂_isOutcome_iff]
    exact congrArg (fun a => [_, _, a]) (hrefused refusal hrefusal)
  have hids : ∀ a ∈ threeOutcomes, a.SendsIds := by decide +kernel
  obtain ⟨hnamed, hserved⟩ := served_answering refusal hrefusal
  have hgiven : List.Forall₂ IsOutcome ((answering refusal).serve "http://gw/stream"
      (namedIds ((answering refusal).ask (start "http://gw/stream" 3000) 7).2)).2
        threeOutcomes := by
    rw [hnamed, hserved]
    exact houtcomes
  refine ⟨hreaches, houtcomes, hids, ?_, ?_⟩
  · rw [hspec.answered houtcomes hids 7]
    decide +kernel
  · rw [hspec.requested hreaches 7 threeOutcomes hgiven hids, hnamed]
    rfl

end Subscription

end TaskMonitor
