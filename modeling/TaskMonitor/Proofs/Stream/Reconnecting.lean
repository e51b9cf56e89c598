import TaskMonitor.Proofs.Stream.Transcript

/-! # Connecting again

After an interruption a subscription asks for its events again, and names the last id that it
received. An id that cannot stand in a header keeps the request from being sent, and each later
one too. -/

namespace TaskMonitor

open EventStream (Frame frames)

namespace ScriptedGateway

variable {g : ScriptedGateway} {url : String} {l : Location} {s : Subscription}

/-! ## Calls -/

theorem ask_congr {s' : Subscription} (h : g.next s = g.next s') (hdelay : s.delay? = none)
    (hdelay' : s'.delay? = none) (n : Nat) : g.ask s n = g.ask s' n := by
  cases n with
  | zero => rfl
  | succ n => simp only [ask, h, hdelay, hdelay', Option.map_none]

/-- What a subscription can hand out without a connection it hands out first, and nothing is asked
of the gateway for it. -/
theorem ask_drain (g : ScriptedGateway) (s : Subscription) (n : Nat) :
    g.ask s (s.drain.1.length + n) =
      ((g.ask s.drain.2 n).1,
        s.drain.1.map (fun x => ⟨.signal x, none⟩) ++ (g.ask s.drain.2 n).2) := by
  fun_induction Subscription.drain s with
  | case1 s x s' h ih =>
      have hdelay := Subscription.delay?_of_read h
      have hnext : g.next s = (g, s', .signal x, 0) := by simp [next, hdelay, h]
      rw [List.length_cons, Nat.add_right_comm, ask, hnext]
      simp [ih, hdelay]
  | case2 s r s' hr h =>
      have hsame : g.ask s n = g.ask s' n := by
        rcases Subscription.read_of_quiet h hr with rfl | ⟨hdelay, hdelay', hread⟩
        · rfl
        · exact ask_congr (by simp [next, hdelay, hdelay', hread]) hdelay hdelay' n
      simp [hsame]

/-- As long as the id cannot be sent, no request gets out, and the subscription reports nothing but
interruptions. -/
theorem ask_of_not_mayName (g : ScriptedGateway) (hpending : s.pending = [])
    (hconnection : s.connection = .waiting s.retry) (hid : ¬ Request.MayName s.lastEventId)
    (n : Nat) :
    g.ask s n =
      (g, List.replicate n ⟨.signal .interrupted, some ⟨s.retry, s.lastEventId⟩⟩) := by
  have hdelay : s.delay? = some s.retry := by
    simp [Subscription.delay?, hpending, hconnection]
  obtain ⟨hgateway, hfailed⟩ := g.connect_of_not_mayName s.url hid
  -- An attempt that fails leaves the subscription as it was.
  have hsame : s.interrupt = s := by
    obtain ⟨url, retry, lastEventId, connection, pending⟩ := s
    simp_all [Subscription.interrupt]
  induction n with
  | zero => rfl
  | succ n ih =>
      rw [ask_dial g hdelay]
      simp only [hgateway, hfailed, Attempt.ofAnswer?, Subscription.connected, hsame, ih,
        List.replicate_succ]

/-! ## After an interruption -/

theorem ask_accepted (g : ScriptedGateway) {delay : Nat} (hdelay : s.delay? = some delay)
    {chunks : List (List UInt8)} {ending : Ending} (hbreaks : ending ≠ .held)
    (haccepted : Attempt.ofAnswer? (g.connect s.url s.lastEventId).2.toOption =
      .accepted chunks ending) :
    let asked := (g.connect s.url s.lastEventId).1
    let waiting := (s.after (frames chunks.flatten)).interrupt
    let n := ((frames chunks.flatten).filterMap Subscription.message?).length + 2
    (g.ask s n).1 = asked ∧ (g.ask s n).2.getLast? = some ⟨.signal .interrupted, none⟩ ∧
      ∀ m, g.ask s (n + m) =
        ((asked.ask waiting m).1, (g.ask s n).2 ++ (asked.ask waiting m).2) := by
  intro asked waiting n
  have hpending : s.pending = [] := by
    cases hpending : s.pending with
    | nil => rfl
    | cons x rest => simp [Subscription.delay?, hpending] at hdelay
  have hsignals : ending.signals = [.interrupted] := by cases ending <;> simp_all [Ending.signals]
  let reading : Subscription := { s with connection := .reading .empty chunks ending }
  have hdrain : reading.drain =
      ((frames chunks.flatten).filterMap Subscription.message? ++ [.interrupted], waiting) := by
    have hread := Subscription.drain_reading .empty chunks ending hpending
    rw [hsignals, if_neg hbreaks] at hread
    exact hread
  have hconnected : s.connected (.accepted chunks ending) = (.opened, reading) := rfl
  have hask (m : Nat) : g.ask s (n + m) =
      ((asked.ask waiting m).1, ⟨.signal .opened, some ⟨delay, s.lastEventId⟩⟩ ::
        (reading.drain.1.map fun x => ⟨.signal x, none⟩) ++ (asked.ask waiting m).2) := by
    have hn : n + m = reading.drain.1.length + m + 1 := by
      simp only [n, hdrain, List.length_append, List.length_singleton]
      omega
    have hread := ask_drain asked reading m
    simp only [hn, ask_dial g hdelay, haccepted, hconnected, asked, hread]
    rw [hdrain]
    rfl
  have hfirst : g.ask s n = (asked, ⟨.signal .opened, some ⟨delay, s.lastEventId⟩⟩ ::
      reading.drain.1.map fun x => ⟨.signal x, none⟩) := by
    simpa [ask] using hask 0
  refine ⟨by rw [hfirst], ?_, ?_⟩
  · simp [hfirst, hdrain, List.getLast?_cons]
  · intro m
    rw [hask, hfirst]

/-- A connection was accepted and then interrupted. The next attempt asks for the events again,
unless the id that was received last cannot stand in a header. Then neither it nor any later
attempt gets a request out. -/
theorem asks_again (h : g.Reaches s.url l) {delay : Nat} (hdelay : s.delay? = some delay)
    {chunks : List (List UInt8)} {ending : Ending} (hbreaks : ending ≠ .held)
    (haccepted : Attempt.ofAnswer? (g.connect s.url s.lastEventId).2.toOption =
      .accepted chunks ending) :
    let received := frames chunks.flatten
    let id := Subscription.lastId received s.lastEventId
    let asked := (g.connect s.url s.lastEventId).1.requests
    let n := (received.filterMap Subscription.message?).length + 2
    (g.ask s n).1.requests = asked ∧
      (g.ask s n).2.getLast? = some ⟨.signal .interrupted, none⟩ ∧
      (Request.MayName id → (g.ask s (n + 1)).1.requests =
        asked ++ [Request.stream (String.ofList l.target) id]) ∧
      (¬ Request.MayName id → ∀ m, (g.ask s (n + m)).1.requests = asked ∧
        (g.ask s (n + m)).2 = (g.ask s n).2 ++
          List.replicate m ⟨.signal .interrupted, some ⟨(s.after received).retry, id⟩⟩) := by
  intro received id asked n
  obtain ⟨hasked, hlast, hmore⟩ := g.ask_accepted hdelay hbreaks haccepted
  have hid : ((s.after received).interrupt).lastEventId = id :=
    Subscription.after_lastEventId s received
  have hurl : ((s.after received).interrupt).url = s.url := by
    simp [Subscription.interrupt, Subscription.after, Subscription.absorbAll_eq]
  refine ⟨congrArg (·.requests) hasked, hlast, ?_, ?_⟩
  · intro hname
    have hdelay' : (s.after received).interrupt.delay? = some (s.after received).retry := rfl
    rw [hmore, ask_dial _ hdelay', hid, hurl, connect_of_mayName (h.connect _) hname]
    rfl
  · intro hname m
    rw [← hid] at hname
    rw [hmore, ask_of_not_mayName _ rfl rfl hname, hid]
    exact ⟨rfl, rfl⟩

/-! ### One message -/

def oneMessage (id : String) : Answer where
  status := 200
  contentType := some "text/event-stream"
  chunks := [Utf8.encode ("id: " ++ id ++ "\ndata: x\n\n").toList]
  ending := .complete

def sending (id : String) : ScriptedGateway where
  host := some "gw"
  replies := [("/stream", [.answer (oneMessage id)])]
  requests := []

def subscribing : Subscription := .start "http://gw/stream" 3000

theorem reaches_sending (id : String) : (sending id).Reaches subscribing.url streamLocation :=
  ⟨forRequest_stream, rfl, rfl⟩

theorem accepted_sending (id : String) :
    Attempt.ofAnswer? ((sending id).connect subscribing.url subscribing.lastEventId).2.toOption =
      .accepted (oneMessage id).chunks .complete := by
  obtain ⟨hlocation, hweb, hat⟩ := reaches_sending id
  have hsent : ((sending id).connect subscribing.url subscribing.lastEventId).2 =
      .ok (oneMessage id) := by
    simp only [connect, hlocation, hweb, send, hat]
    rfl
  rw [hsent]
  rfl

theorem id_named_again :
    let g := sending "e1"
    let s := subscribing
    g.Reaches s.url streamLocation ∧ s.delay? = some 0 ∧ Ending.complete ≠ .held ∧
      Attempt.ofAnswer? (g.connect s.url s.lastEventId).2.toOption =
        .accepted (oneMessage "e1").chunks .complete ∧
      (g.ask s 4).1.requests =
        [Request.stream "/stream" none, Request.stream "/stream" (some "e1")] := by
  intro g s
  have hreaches : g.Reaches s.url streamLocation := reaches_sending "e1"
  have haccepted : Attempt.ofAnswer? (g.connect s.url s.lastEventId).2.toOption =
      .accepted (oneMessage "e1").chunks .complete := accepted_sending "e1"
  have hdelay : s.delay? = some 0 := rfl
  obtain ⟨-, -, hagain, -⟩ := asks_again hreaches hdelay (by decide) haccepted
  have hcount : ((frames (oneMessage "e1").chunks.flatten).filterMap
      Subscription.message?).length + 2 = 3 := by decide +kernel
  have hid : Subscription.lastId (frames (oneMessage "e1").chunks.flatten) s.lastEventId =
      some "e1" := by decide +kernel
  rw [hcount, hid] at hagain
  refine ⟨hreaches, hdelay, by decide, haccepted, ?_⟩
  rw [hagain (by decide), connect_of_mayName hreaches (by decide)]
  rfl

/-- An id with a control character silences a subscription for good. -/
theorem unsendable_id_silences :
    let g := sending "a\x01"
    let s := subscribing
    Attempt.ofAnswer? (g.connect s.url s.lastEventId).2.toOption =
        .accepted (oneMessage "a\x01").chunks .complete ∧
      (g.ask s 3).2.getLast? = some ⟨.signal .interrupted, none⟩ ∧
      ∀ n, (g.ask s (3 + n)).1.requests = [Request.stream "/stream" none] := by
  intro g s
  have hreaches : g.Reaches s.url streamLocation := reaches_sending "a\x01"
  have haccepted : Attempt.ofAnswer? (g.connect s.url s.lastEventId).2.toOption =
      .accepted (oneMessage "a\x01").chunks .complete := accepted_sending "a\x01"
  have hdelay : s.delay? = some 0 := rfl
  obtain ⟨-, hlast, hmore⟩ := g.ask_accepted hdelay (by decide) haccepted
  have hcount : ((frames (oneMessage "a\x01").chunks.flatten).filterMap
      Subscription.message?).length + 2 = 3 := by decide +kernel
  rw [hcount] at hlast hmore
  refine ⟨haccepted, hlast, ?_⟩
  intro n
  have hname : ¬ Request.MayName
      (s.after (frames (oneMessage "a\x01").chunks.flatten)).interrupt.lastEventId := by
    decide +kernel
  rw [hmore, ask_of_not_mayName _ rfl rfl hname, connect_of_mayName hreaches (by decide)]
  rfl

end ScriptedGateway

end TaskMonitor
