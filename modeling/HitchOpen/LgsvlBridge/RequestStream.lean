import HitchOpen.LgsvlBridge.WriteQueue

/-!
# The requests of a connection

In every run of a connection, whatever is published and written in between, the requests handled so far
are those in the bytes that have arrived, in their order, and the buffer holds the rest.  It does not
matter how the stream was cut into reads, except for one thing: a read that ends inside the second length
of a request makes the handler read past the end of the buffer.
-/

namespace HitchOpen.LgsvlBridge

open HitchOpen.Runtime EventMachine ChunkedStream HitchOpen.DoubleBuffer

def Effect.request? : Effect → Option Request
  | .request r => some r
  | _ => none

/-- The requests among some effects. -/
def asked (effects : List Effect) : List Request := effects.filterMap Effect.request?

@[simp] theorem asked_nil : asked [] = [] := rfl

@[simp] theorem asked_append (xs ys : List Effect) : asked (xs ++ ys) = asked xs ++ asked ys :=
  List.filterMap_append

theorem asked_requests (rs : List Request) : asked (rs.map .request) = rs := by
  induction rs with
  | nil => rfl
  | cons r rs ih => exact congrArg (r :: ·) ih

namespace Connection

/-- What the effects so far, the buffer and the socket have to do with each other. -/
structure Reading (effects : List Effect) (s : Connection) : Prop where
  asked : asked effects = (requests s.socket.received).items
  buffer : s.client.buffer = (requests s.socket.received).rest
  reading : s.socket.reading = true → (requests s.socket.received).rejected = false

theorem reading_start : Reading [] start := ⟨rfl, rfl, fun _ => rfl⟩

/-- A step that ends no read does nothing about reading. -/
theorem step_not_read {s : Connection} {e : ConnectionEvent} (he : ∀ outcome, e ≠ .read outcome)
    (hstop : (step s e).stop = none) :
    (step s e).state.client.buffer = s.client.buffer ∧
      (step s e).state.socket.received = s.socket.received ∧
      (step s e).state.socket.reading = s.socket.reading ∧ asked (step s e).outputs = [] := by
  cases e with
  | read outcome => exact absurd rfl (he outcome)
  | written outcome =>
      obtain ⟨-, hstep⟩ | ⟨data, -, -, hstep⟩ | ⟨data, -, -, hstep⟩ := written_cases s outcome
      · rw [hstep]
        exact ⟨rfl, rfl, rfl, rfl⟩
      · rw [hstep]
        refine ⟨rfl, rfl, rfl, ?_⟩
        rw [Reply.done_outputs]
        split_ifs <;> rfl
      · rw [hstep]
        refine ⟨rfl, rfl, rfl, ?_⟩
        rw [Reply.done_outputs]
        split_ifs <;> rfl
  | publish topic msg =>
      obtain ⟨-, -, hstep⟩ | ⟨-, -, hstep⟩ | ⟨-, -, hstep⟩ := publish_cases hstop <;>
        rw [hstep] <;> exact ⟨rfl, rfl, rfl, rfl⟩

/-- What has been found in the stream so far goes on with the next data. -/
theorem Reading.found_eq {effects : List Effect} {s : Connection} (h : Reading effects s) (data : Bytes)
    (hreading : s.socket.reading = true) :
    requests (s.socket.received ++ data) =
      ⟨LgsvlBridge.asked effects ++ (s.found data).items, (s.found data).rest,
        (s.found data).rejected⟩ := by
  rw [requests, requestScanner.drain_append data (h.reading hreading), Scanner.feed]
  show (if (requests s.socket.received).rejected = true then _ else _) = _
  rw [h.reading hreading, if_neg (by simp), found, h.buffer, h.asked]
  rfl

theorem Reading.read {effects : List Effect} {s : Connection} (h : Reading effects s)
    (outcome : Outcome Bytes) (hstop : (step s (.read outcome)).stop = none) :
    Reading (effects ++ (step s (.read outcome)).outputs) (step s (.read outcome)).state := by
  obtain ⟨-, hstep⟩ | ⟨data, -, -, -, hstep⟩ | ⟨data, hr, -, -, hstep⟩ | ⟨-, -, hstep⟩ :=
    read_cases s outcome <;> rw [hstep] at hstop ⊢
  · rw [Reply.done_outputs, List.append_nil]
    exact h
  · cases hstop
  · have hfound := h.found_eq data hr
    refine ⟨?_, ?_, ?_⟩
    · show LgsvlBridge.asked _ = (requests (s.socket.received ++ data)).items
      rw [hfound, asked_append, Reply.done_outputs, asked_append, asked_requests]
      cases (s.found data).rejected <;> simp [LgsvlBridge.asked, Effect.request?]
    · show (s.found data).rest = (requests (s.socket.received ++ data)).rest
      rw [hfound]
    · show (!(s.found data).rejected) = true → (requests (s.socket.received ++ data)).rejected = false
      rw [hfound]
      exact fun hopen => by simpa using hopen
  · have hnone : LgsvlBridge.asked (if outcome = .aborted then [] else [.stop, .remove]) = [] := by
      split_ifs <;> rfl
    refine ⟨?_, h.buffer, fun hfalse => absurd hfalse (by simp)⟩
    rw [Reply.done_outputs, asked_append, hnone, List.append_nil]
    exact h.asked

theorem Reading.step {effects : List Effect} {s : Connection} (h : Reading effects s)
    (e : ConnectionEvent) (hstop : (step s e).stop = none) :
    Reading (effects ++ (Connection.step s e).outputs) (Connection.step s e).state := by
  by_cases he : ∀ outcome, e ≠ .read outcome
  · obtain ⟨hbuffer, hreceived, hreading, hasked⟩ := step_not_read he hstop
    refine ⟨?_, ?_, ?_⟩
    · rw [asked_append, hasked, List.append_nil, hreceived, h.asked]
    · rw [hbuffer, hreceived, h.buffer]
    · rw [hreading, hreceived]
      exact h.reading
  · obtain ⟨outcome, rfl⟩ : ∃ outcome, e = .read outcome := by
      simpa only [not_forall, not_not] using he
    exact h.read outcome hstop

/-- In every state reached. -/
theorem reading_of_run {es : List ConnectionEvent} {t : Connection}
    (h : connection.runFrom .start es = some t) : Reading (connection.spin .start es).outputs t := by
  rw [← connection.collect_outputs]
  exact connection.runFrom_collect_induct reading_start (fun _ _ e hR hd => hR.step e hd) h

/-- **Cuts and interleavings leave no trace.**  Two runs in which the same bytes have arrived have
handled the same requests and hold the same rest. -/
theorem asked_determined {es fs : List ConnectionEvent} {t u : Connection}
    (ht : connection.runFrom .start es = some t) (hu : connection.runFrom .start fs = some u)
    (h : t.socket.received = u.socket.received) :
    asked (connection.spin .start es).outputs = asked (connection.spin .start fs).outputs ∧
      t.client.buffer = u.client.buffer := by
  have hR := reading_of_run ht
  have hR' := reading_of_run hu
  refine ⟨?_, ?_⟩
  · rw [hR.asked, hR'.asked, h]
  · rw [hR.buffer, hR'.buffer, h]

theorem asked_determined_cut :
    ∃ t u, connection.runFrom .start
        [.read (.success [1, 1, 0]), .read (.success [0, 0, 7, 1, 0, 0, 0, 9])] = some t ∧
      connection.runFrom .start [.read (.success [1, 1, 0, 0, 0, 7, 1, 0, 0, 0, 9])] = some u ∧
      asked (connection.spin .start
          [.read (.success [1, 1, 0]), .read (.success [0, 0, 7, 1, 0, 0, 0, 9])]).outputs =
        asked (connection.spin .start [.read (.success [1, 1, 0, 0, 0, 7, 1, 0, 0, 0, 9])]).outputs ∧
      t.client.buffer = u.client.buffer :=
  ⟨_, _, rfl, rfl, asked_determined rfl rfl rfl⟩

/-- **Requests arrive.**  When the peer has written `rs` and the beginning of one more request, exactly
`rs` have been handled, each once and in order, and the beginning is kept. -/
theorem requests_handled {rs : List Request} {r : Request} {begun missing : Bytes}
    {es : List ConnectionEvent} {t : Connection} (hrun : connection.runFrom .start es = some t)
    (hfits : ∀ q ∈ rs, q.Fits) (hr : r.Fits) (hbegun : r.encode = begun ++ missing)
    (hmissing : missing ≠ []) (hreceived : t.socket.received = rs.flatMap Request.encode ++ begun) :
    asked (connection.spin .start es).outputs = rs ∧ t.client.buffer = begun := by
  have hR := reading_of_run hrun
  have hfound : requests t.socket.received = ⟨rs, begun, false⟩ := by
    rw [hreceived, requests_encode begun hfits, requests_begun hr hbegun hmissing, List.append_nil]
  refine ⟨?_, ?_⟩
  · rw [hR.asked, hfound]
  · rw [hR.buffer, hfound]

/-- Two subscriptions and the first bytes of a message, with a message to the client in between. -/
def twoSubscriptions : List ConnectionEvent :=
  [.read (.success [1, 1, 0, 0, 0, 7, 1, 0]), .publish [5] [6],
    .read (.success [0, 0, 9, 1, 0, 0, 0, 0, 1, 0]), .written (.success ()),
    .read (.success [0, 0, 9, 3, 0])]

theorem requests_handled_begun :
    asked (connection.spin .start twoSubscriptions).outputs =
      [.addSubscriber [7] [9], .addSubscriber [] [9]] ∧
    ∃ t, connection.runFrom .start twoSubscriptions = some t ∧ t.client.buffer = [3, 0] := by
  have hrun : connection.runFrom .start twoSubscriptions = some _ := rfl
  obtain ⟨hasked, hbuffer⟩ := @requests_handled [.addSubscriber [7] [9], .addSubscriber [] [9]]
    (.publish [] []) [3, 0] [0, 0, 0, 0, 0, 0, 0] _ _ hrun (by decide) (by decide) rfl (by decide) rfl
  exact ⟨hasked, _, hrun, hbuffer⟩

/-- **Every byte is accounted for.**  Whatever the peer has written, the bytes that have arrived are the
requests handled so far, written one after the other, and then the buffer. -/
theorem received_accounted {es : List ConnectionEvent} {t : Connection}
    (h : connection.runFrom .start es = some t) :
    t.socket.received =
      (asked (connection.spin .start es).outputs).flatMap Request.encode ++ t.client.buffer := by
  have hR := reading_of_run h
  rw [hR.asked, hR.buffer]
  exact (requests_accounted t.socket.received).1

/-- An unknown operation stays in the buffer, and so does what follows it. -/
theorem received_accounted_unknown :
    ∃ t, connection.runFrom .start [.read (.success [1, 1, 0, 0, 0, 7, 1, 0, 0, 0, 9, 200, 1])] = some t ∧
      t.socket.received = (asked (connection.spin .start
        [.read (.success [1, 1, 0, 0, 0, 7, 1, 0, 0, 0, 9, 200, 1])]).outputs).flatMap Request.encode ++
          t.client.buffer :=
  ⟨_, rfl, received_accounted rfl⟩

/-! ### Where a cut may fall -/

/-- The first `n` bytes of some requests end inside the second length of one of them, or in front of it
when its topic is not empty. -/
def CutInside : List Request → ℕ → Prop
  | [], _ => False
  | r :: rs, n =>
      (9 ≤ n ∧ 5 + r.topic.length ≤ n ∧ n < 9 + r.topic.length) ∨
        (r.encode.length ≤ n ∧ CutInside rs (n - r.encode.length))

theorem encode_length (r : Request) : r.encode.length = 9 + r.topic.length + r.text.length := by
  rw [Request.encode, List.length_cons, List.length_append, LittleEndian.counted_length,
    LittleEndian.counted_length]
  omega

theorem topicLength_begun {r : Request} {begun missing : Bytes} (hr : r.Fits)
    (h : r.encode = begun ++ missing) (hlen : 5 ≤ begun.length) :
    topicLength begun = r.topic.length := by
  have hdrop : (begun.drop 1).take 4 = (r.encode.drop 1).take 4 := by
    rw [h, List.drop_append_of_le_length (by omega), List.take_append_of_le_length]
    rw [List.length_drop]
    omega
  have hword : (r.encode.drop 1).take 4 = LittleEndian.bytes 4 r.topic.length := by
    rw [Request.encode, List.drop_one, List.tail_cons, LittleEndian.counted, List.append_assoc,
      List.take_append_of_le_length (by simp), List.take_of_length_le (by simp)]
  rw [topicLength, hdrop, hword, LittleEndian.value_bytes_of_lt hr.1]

theorem overrun_begun_iff {r : Request} {begun missing : Bytes} (hr : r.Fits)
    (h : r.encode = begun ++ missing) :
    Overrun begun ↔
      9 ≤ begun.length ∧ 5 + r.topic.length ≤ begun.length ∧ begun.length < 9 + r.topic.length := by
  by_cases hlen : 9 ≤ begun.length
  · rw [Overrun, topicLength_begun hr h (by omega)]
  · exact ⟨fun h => absurd h.1 hlen, fun h => absurd h.1 hlen⟩

/-- A text that requests begin with is not given up, and it overruns where its end is a bad place. -/
theorem requests_cut {rs : List Request} {text missing : Bytes} (hfits : ∀ q ∈ rs, q.Fits)
    (h : text ++ missing = rs.flatMap Request.encode) :
    (requests text).rejected = false ∧ (Overruns (requests text) ↔ CutInside rs text.length) := by
  induction rs generalizing text with
  | nil =>
      obtain ⟨rfl, rfl⟩ := List.append_eq_nil_iff.mp h
      exact ⟨rfl, fun h => absurd h.2.1 (by decide), False.elim⟩
  | cons r rs ih =>
      have hr := hfits r List.mem_cons_self
      rw [List.flatMap_cons] at h
      have htail : ∀ q ∈ rs, q.Fits := fun q hq => hfits q (List.mem_cons_of_mem r hq)
      obtain ⟨more, hmore, hbegun⟩ | ⟨past, rfl, hpast⟩ := cut_cases h
      · have hlen : text.length < r.encode.length := by
          rw [hbegun, List.length_append]
          have := List.length_pos_iff.mpr hmore
          omega
        rw [requests_begun hr hbegun hmore, CutInside, or_iff_left fun h => absurd h.1 (by omega),
          ← overrun_begun_iff hr hbegun]
        exact ⟨rfl, fun h => h.2, fun h => ⟨rfl, h⟩⟩
      · have hfound := requests_encode past (List.forall_mem_singleton.mpr hr)
        rw [List.flatMap_singleton] at hfound
        obtain ⟨hopen, hiff⟩ := ih htail hpast
        have hfar : ¬ ((r.encode ++ past).length < 9 + r.topic.length) := by
          rw [List.length_append, encode_length]
          omega
        rw [hfound, CutInside, or_iff_right fun h => hfar h.2.2, List.length_append,
          Nat.add_sub_cancel_left]
        exact ⟨hopen, hiff.trans (and_iff_right (Nat.le_add_right _ _)).symm⟩

/-- The beginnings of a longer list, when the empty one is no exception. -/
theorem forall_prefix_cons {α : Type*} {P : List α → Prop} {x : α} {xs : List α} (h : P []) :
    (∀ pre, pre <+: x :: xs → P pre) ↔ ∀ pre, pre <+: xs → P (x :: pre) := by
  refine ⟨fun hall pre hpre => hall _ ((List.prefix_cons_inj x).mpr hpre), ?_⟩
  intro hall pre hpre
  rcases List.prefix_cons_iff.mp hpre with rfl | ⟨pre, rfl, htail⟩
  · exact h
  · exact hall pre htail

/-- What the reads have brought; one that fails is the last. -/
def arrived : List ConnectionEvent → Bytes
  | [] => []
  | .read (.success data) :: es => data ++ arrived es
  | .read _ :: _ => []
  | _ :: es => arrived es

/-- What a step brings. -/
def brought : ConnectionEvent → Bytes
  | .read (.success data) => data
  | _ => []

/-- Reading goes on after every event but a read that fails. -/
def ReadEnds (e : ConnectionEvent) : Prop :=
  ∃ outcome, e = .read outcome ∧ ∀ data, outcome ≠ .success data

theorem arrived_ended {e : ConnectionEvent} (h : ReadEnds e) (es : List ConnectionEvent) :
    arrived (e :: es) = [] := by
  obtain ⟨outcome, rfl, h⟩ := h
  cases outcome with
  | success data => exact absurd rfl (h data)
  | eof => rfl
  | aborted => rfl
  | failed => rfl

theorem arrived_cons {e : ConnectionEvent} (h : ¬ ReadEnds e) (es : List ConnectionEvent) :
    arrived (e :: es) = brought e ++ arrived es := by
  cases e with
  | read outcome =>
      cases outcome with
      | success data => rfl
      | eof => exact absurd ⟨.eof, rfl, by simp⟩ h
      | aborted => exact absurd ⟨.aborted, rfl, by simp⟩ h
      | failed => exact absurd ⟨.failed, rfl, by simp⟩ h
  | written outcome => rfl
  | publish topic msg => rfl

/-- Only a read stops a connection. -/
theorem Carries.goes_on {l : Lane Message} {s : Connection} (h : Carries l s) {e : ConnectionEvent}
    (he : ∀ outcome, e ≠ .read outcome) : (Connection.step s e).stop = none := by
  cases hd : (Connection.step s e).stop with
  | none => rfl
  | some fault =>
      obtain ⟨-, data, hread, -⟩ := h.fault hd
      exact absurd hread (he _)

/-- After its last read nothing stops a connection. -/
theorem Carries.run_of_idle {l : Lane Message} {s : Connection} (h : Carries l s)
    (hidle : s.socket.reading = false) (es : List ConnectionEvent) :
    ∃ t, connection.runFrom s es = some t := by
  induction es generalizing s l with
  | nil => exact ⟨s, rfl⟩
  | cons e es ih =>
      obtain ⟨-, l', hl', -⟩ := h.step e
      have hstep : (Connection.step s e).stop = none ∧
          (Connection.step s e).state.socket.reading = false := by
        by_cases he : ∀ outcome, e ≠ .read outcome
        · have hd := h.goes_on he
          obtain ⟨-, -, hreading, -⟩ := step_not_read he hd
          exact ⟨hd, hreading.trans hidle⟩
        · obtain ⟨outcome, rfl⟩ : ∃ outcome, e = .read outcome := by
            simpa only [not_forall, not_not] using he
          rw [step_read_idle outcome hidle]
          exact ⟨rfl, hidle⟩
      obtain ⟨t, ht⟩ := ih hl' hstep.2
      exact ⟨t, connection.runFrom_cons_iff.mpr ⟨hstep.1, ht⟩⟩

/-- Nor does the last read. -/
theorem Carries.run_of_ended {l : Lane Message} {s : Connection} (h : Carries l s)
    (hreading : s.socket.reading = true) {e : ConnectionEvent} (he : ReadEnds e)
    (es : List ConnectionEvent) : ∃ t, connection.runFrom s (e :: es) = some t := by
  obtain ⟨outcome, rfl, hend⟩ := he
  obtain ⟨-, l', hl', -⟩ := h.step (.read outcome)
  have hstep := step_read_ended hreading hend
  have hd : (connection.step s (.read outcome)).stop = none := congrArg Reply.stop hstep
  have hidle : (Connection.step s (.read outcome)).state.socket.reading = false := by
    rw [hstep]
    rfl
  rw [connection.runFrom_cons_done es hd]
  exact hl'.run_of_idle hidle es

section Cuts

variable {rs : List Request} {es : List ConnectionEvent} {missing : Bytes}

/-- Requests do not end in a bad place before they begin. -/
theorem not_cutInside_zero (rs : List Request) : ¬ CutInside rs 0 := by
  cases rs with
  | nil => exact id
  | cons r rs =>
      rintro (⟨hlen, -⟩ | ⟨hlen, -⟩)
      · exact absurd hlen (by decide)
      · rw [encode_length] at hlen
        omega

/-- **Step lemma.**  In the course of the requests a step stops the client if it brings the stream to a
bad place; otherwise another read follows. -/
theorem Reading.goes_on_iff (hfits : ∀ q ∈ rs, q.Fits) {effects : List Effect} {l : Lane Message}
    {s : Connection} (hR : Reading effects s) (hl : Carries l s) (hreading : s.socket.reading = true)
    (hcut : ¬ CutInside rs s.socket.received.length) {e : ConnectionEvent} (he : ¬ ReadEnds e)
    (h : (s.socket.received ++ brought e) ++ missing = rs.flatMap Request.encode) :
    ((Connection.step s e).stop = none ↔ ¬ CutInside rs (s.socket.received ++ brought e).length) ∧
      ((Connection.step s e).stop = none →
        (Connection.step s e).state.socket.received = s.socket.received ++ brought e ∧
        (Connection.step s e).state.socket.reading = true) := by
  by_cases hread : ∃ data, e = .read (.success data)
  · obtain ⟨data, rfl⟩ := hread
    obtain ⟨hopen, hbad⟩ := requests_cut hfits h
    -- the handler reads on from its buffer as if it had the whole stream before it
    rw [brought, hR.found_eq data hreading] at hopen hbad
    have hopen : (s.found data).rejected = false := hopen
    have hbad : Overruns (s.found data) ↔ CutInside rs (s.socket.received ++ data).length := hbad
    rw [brought, ← hbad]
    by_cases hover : Overruns (s.found data)
    · rw [step_read_overrun hreading hover]
      exact ⟨iff_of_false (by simp) (not_not_intro hover), fun hd => nomatch hd⟩
    · rw [step_read_success hreading hover]
      refine ⟨iff_of_true rfl hover, fun _ => ⟨rfl, ?_⟩⟩
      show (!(s.found data).rejected) = true
      rw [hopen]
      rfl
  · -- no read: what has arrived stays
    have hno : ∀ outcome, e ≠ .read outcome := by
      rintro outcome rfl
      exact he ⟨outcome, rfl, fun data hdata => hread ⟨data, hdata ▸ rfl⟩⟩
    have hnothing : brought e = [] := by
      cases e with
      | read outcome => exact absurd rfl (hno outcome)
      | written outcome => rfl
      | publish topic msg => rfl
    have hd := hl.goes_on hno
    obtain ⟨-, hreceived, hreading', -⟩ := step_not_read hno hd
    rw [hnothing, List.append_nil]
    exact ⟨iff_of_true hd hcut, fun _ => ⟨hreceived, hreading'.trans hreading⟩⟩

/-- From a client that is reading and whose last read has ended in a good place. -/
theorem run_iff_of_reading (hfits : ∀ q ∈ rs, q.Fits) {effects : List Effect} {l : Lane Message}
    {s : Connection} (hR : Reading effects s) (hl : Carries l s) (hreading : s.socket.reading = true)
    (hcut : ¬ CutInside rs s.socket.received.length)
    (h : s.socket.received ++ arrived es ++ missing = rs.flatMap Request.encode) :
    (∃ t, connection.runFrom s es = some t) ↔
      ∀ pre, pre <+: es → ¬ CutInside rs (s.socket.received ++ arrived pre).length := by
  induction es generalizing s effects l with
  | nil =>
      refine ⟨fun _ pre hpre => ?_, fun _ => ⟨s, rfl⟩⟩
      rw [List.prefix_nil.mp hpre, arrived, List.append_nil]
      exact hcut
  | cons e es ih =>
      rw [forall_prefix_cons (by rw [arrived, List.append_nil]; exact hcut)]
      by_cases he : ReadEnds e
      · refine iff_of_true (hl.run_of_ended hreading he es) fun pre _ => ?_
        rw [arrived_ended he, List.append_nil]
        exact hcut
      · simp only [arrived_cons he, ← List.append_assoc] at h ⊢
        have htext := h
        rw [List.append_assoc] at htext
        obtain ⟨hgoes, hstate⟩ := hR.goes_on_iff hfits hl hreading hcut he htext
        cases hd : (connection.step s e).stop with
        | none =>
            obtain ⟨hreceived, hreading'⟩ := hstate hd
            obtain ⟨-, l', hl', -⟩ := hl.step e
            have hcut' := hgoes.mp hd
            rw [connection.runFrom_cons_done es hd]
            rw [← hreceived] at hcut' h ⊢
            exact ih (hR.step e hd) hl' hreading' hcut' h
        | some fault =>
            rw [connection.runFrom_cons_halt es hd]
            refine iff_of_false (by simp) fun hall => ?_
            have hgood := hall [] List.nil_prefix
            rw [arrived, List.append_nil] at hgood
            exact absurd (hd.symm.trans (hgoes.mpr hgood)) (by simp)

/-- **Where reading goes wrong.**  While the peer writes requests, the client reads past the end of its
buffer if and only if a read ends in a bad place, whatever is published and written in between. -/
theorem reads_run_iff (hfits : ∀ q ∈ rs, q.Fits) (h : arrived es ++ missing = rs.flatMap Request.encode) :
    (∃ t, connection.runFrom .start es = some t) ↔
      ∀ pre, pre <+: es → ¬ CutInside rs (arrived pre).length :=
  run_iff_of_reading hfits reading_start carries_start rfl (not_cutInside_zero rs) h

/-- Nine bytes of a request whose topic has one byte, in two reads. -/
theorem reads_run_iff_nine :
    ¬ ∃ t, connection.runFrom .start [.publish [5] [6], .read (.success [1, 1, 0, 0]),
      .written (.success ()), .read (.success [0, 7, 1, 0, 0])] = some t := by
  intro hrun
  have hcut := (@reads_run_iff [.addSubscriber [7] [9]] [.publish [5] [6], .read (.success [1, 1, 0, 0]),
    .written (.success ()), .read (.success [0, 7, 1, 0, 0])] [0, 9] (by decide) rfl).mp hrun _
    (List.prefix_refl _)
  exact hcut (.inl ⟨by decide, by decide, by decide⟩)

end Cuts

end Connection

end HitchOpen.LgsvlBridge
