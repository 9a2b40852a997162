import Mathlib.Tactic.Ring
import HitchOpen.LgsvlBridge.Client

/-!
# What the simulator bridge reads

Requests are a prefix code, and the reading loop takes them off the front of the buffer by it, with one
exception.  The handlers check that the first nine bytes are there and that the topic is, but not that
the second length behind the topic is.  In a buffer that ends inside this length, or just in front of
it, with a topic that is not empty, they read past the end: `Overrun`.

`readLoop_eq` says that this is all: the loop goes through all complete requests, and then it stops,
gives the client up, or overruns.
-/

namespace HitchOpen.LgsvlBridge

open HitchOpen.Runtime ChunkedStream PrefixCode LittleEndian

/-! ### The words of a buffer -/

theorem or_shiftLeft {x : ℕ} (y k : ℕ) (h : x < 2 ^ k) : x ||| y <<< k = x + 2 ^ k * y := by
  rw [Nat.or_comm, ← Nat.shiftLeft_add_eq_or_of_lt h, Nat.shiftLeft_eq]
  ring

theorem or_bytes (b0 b1 b2 b3 : UInt8) :
    b0.toNat ||| b1.toNat <<< 8 ||| b2.toNat <<< 16 ||| b3.toNat <<< 24 = value [b0, b1, b2, b3] := by
  have h0 : b0.toNat < 2 ^ 8 := b0.toNat_lt
  have h1 : b1.toNat < 2 ^ 8 := b1.toNat_lt
  have h2 : b2.toNat < 2 ^ 8 := b2.toNat_lt
  rw [or_shiftLeft _ 8 h0, or_shiftLeft _ 16 (by omega), or_shiftLeft _ 24 (by omega)]
  rw [value_cons, value_cons, value_cons, value_cons]
  show _ = b0.toNat + 256 * (b1.toNat + 256 * (b2.toNat + 256 * (b3.toNat + 256 * 0)))
  omega

theorem get32le_ok {buffer : Bytes} {offset : ℕ} (h : offset + 4 ≤ buffer.length) :
    get32le buffer offset = .ok (value ((buffer.drop offset).take 4)) := by
  have hat : ∀ i, i < 4 → ∃ b, buffer[offset + i]? = some b := by
    intro i hi
    exact ⟨_, List.getElem?_eq_getElem (by omega)⟩
  obtain ⟨b0, h0⟩ := hat 0 (by decide)
  obtain ⟨b1, h1⟩ := hat 1 (by decide)
  obtain ⟨b2, h2⟩ := hat 2 (by decide)
  obtain ⟨b3, h3⟩ := hat 3 (by decide)
  have hword : (buffer.drop offset).take 4 = [b0, b1, b2, b3] := by
    apply List.ext_getElem?
    intro i
    match i with
    | 0 => simpa using h0
    | 1 => simpa using h1
    | 2 => simpa using h2
    | 3 => simpa using h3
    | i + 4 => simp
  rw [hword, ← or_bytes]
  simp only [get32le, vectorAt, h0, h1, h2, h3]
  rfl

theorem get32le_error {buffer : Bytes} {offset : ℕ} (h : buffer.length < offset + 4) :
    get32le buffer offset = .error .outOfRange := by
  have hlast : vectorAt buffer (offset + 3) = .error .outOfRange := by
    rw [vectorAt, List.getElem?_eq_none (by omega)]
  cases h0 : vectorAt buffer (offset + 0) with
  | error u => rw [get32le, h0, error_bind, vectorAt_error h0]
  | ok b0 =>
      cases h1 : vectorAt buffer (offset + 1) with
      | error u => rw [get32le, h0, h1, ok_bind, error_bind, vectorAt_error h1]
      | ok b1 =>
          cases h2 : vectorAt buffer (offset + 2) with
          | error u => rw [get32le, h0, h1, h2, ok_bind, ok_bind, error_bind, vectorAt_error h2]
          | ok b2 => rw [get32le, h0, h1, h2, hlast, ok_bind, ok_bind, ok_bind, error_bind]

/-! ### Requests as a code -/

/-- The request that an operation byte begins. -/
def requestKind (op : UInt8) : Option (Bytes → Bytes → Request) :=
  if op = opAddSubscriber then some .addSubscriber
  else if op = opAddPublisher then some .addPublisher
  else if op = opPublish then some .publish
  else none

theorem handler_eq (op : UInt8) : handler op = (requestKind op).map handleRequest := by
  rw [handler, requestKind]
  split_ifs <;> rfl

/-- The two texts behind the operation byte. -/
def texts (make : Bytes → Bytes → Request) : Decoder UInt8 Request :=
  (field 4).andThen fun topic => (field 4).andThen fun text => .pure (make topic text)

/-- One request. -/
def request : Decoder UInt8 Request := Decoder.one.andThen fun op => ((requestKind op).map texts).getD .fail

namespace Request

def op : Request → UInt8
  | addSubscriber _ _ => opAddSubscriber
  | addPublisher _ _ => opAddPublisher
  | publish _ _ => opPublish

def topic : Request → Bytes
  | addSubscriber topic _ => topic
  | addPublisher topic _ => topic
  | publish topic _ => topic

/-- The type or the message. -/
def text : Request → Bytes
  | addSubscriber _ type => type
  | addPublisher _ type => type
  | publish _ message => message

/-- How it is written on the wire. -/
def encode (r : Request) : Bytes := r.op :: (counted 4 r.topic ++ counted 4 r.text)

/-- Its lengths fit into four bytes. -/
def Fits (r : Request) : Prop := r.topic.length < 2 ^ 32 ∧ r.text.length < 2 ^ 32

instance (r : Request) : Decidable r.Fits := inferInstanceAs (Decidable (_ ∧ _))

theorem requestKind_op (r : Request) : ∃ make, requestKind r.op = some make ∧ make r.topic r.text = r := by
  cases r with
  | addSubscriber topic type => exact ⟨.addSubscriber, rfl, rfl⟩
  | addPublisher topic type => exact ⟨.addPublisher, rfl, rfl⟩
  | publish topic message => exact ⟨.publish, rfl, rfl⟩

end Request

theorem stable_texts (make : Bytes → Bytes → Request) : Stable (texts make) :=
  (stable_field 4).andThen fun topic => (stable_field 4).andThen fun text => stable_pure (make topic text)

theorem stable_request : Stable request := by
  refine stable_one.andThen fun op => ?_
  cases requestKind op with
  | none => exact stable_fail
  | some make => exact stable_texts make

theorem reads_request {r : Request} (h : r.Fits) : Reads request r r.encode := by
  obtain ⟨make, hmake, hr⟩ := r.requestKind_op
  have hpure : Reads (.pure (make r.topic r.text)) r ([] : Bytes) := by
    rw [hr]
    exact reads_pure r
  have htext : Reads ((field 4).andThen fun text => .pure (make r.topic text)) r (counted 4 r.text ++ []) :=
    (reads_field h.2).andThen hpure
  have htexts : Reads (texts make) r (counted 4 r.topic ++ (counted 4 r.text ++ [])) :=
    (reads_field h.1).andThen htext
  rw [List.append_nil] at htexts
  refine (reads_one r.op).andThen (u := counted 4 r.topic ++ counted 4 r.text) ?_
  rw [hmake]
  exact htexts

theorem request_cons {op : UInt8} {make : Bytes → Bytes → Request} (rest : Bytes)
    (h : requestKind op = some make) : request (op :: rest) = texts make rest := by
  show ((requestKind op).map texts).getD .fail rest = _
  rw [h]
  rfl

theorem texts_eq_some {make : Bytes → Bytes → Request} {rest tail : Bytes} {r : Request}
    (h : texts make rest = some (r, tail)) :
    ∃ topic text, r = make topic text ∧ topic.length < 2 ^ 32 ∧ text.length < 2 ^ 32 ∧
      rest = counted 4 topic ++ counted 4 text ++ tail := by
  obtain ⟨topic, mid, htopic, h⟩ := andThen_eq_some.mp h
  obtain ⟨text, mid', htext, hpure⟩ := andThen_eq_some.mp h
  obtain ⟨rfl, rfl⟩ := Prod.mk.inj (Option.some.inj hpure)
  obtain ⟨hlt, rfl⟩ := field_eq_some htopic
  obtain ⟨hlt', rfl⟩ := field_eq_some htext
  exact ⟨topic, text, rfl, hlt, hlt', (List.append_assoc _ _ _).symm⟩

/-- A request stands where its encoding does. -/
theorem request_eq_some {input rest : Bytes} {r : Request} (h : request input = some (r, rest)) :
    r.Fits ∧ input = r.encode ++ rest := by
  obtain ⟨op, tail, hone, h⟩ := andThen_eq_some.mp h
  obtain rfl : input = op :: tail := by
    cases input with
    | nil => cases hone
    | cons a input =>
        obtain ⟨rfl, rfl⟩ := Prod.mk.inj (Option.some.inj hone)
        rfl
  have h : ((requestKind op).map texts).getD .fail tail = some (r, rest) := h
  rw [requestKind] at h
  split_ifs at h with h1 h2 h3
  · obtain ⟨topic, text, rfl, hlt, hlt', rfl⟩ := texts_eq_some h
    exact ⟨⟨hlt, hlt'⟩, h1 ▸ rfl⟩
  · obtain ⟨topic, text, rfl, hlt, hlt', rfl⟩ := texts_eq_some h
    exact ⟨⟨hlt, hlt'⟩, h2 ▸ rfl⟩
  · obtain ⟨topic, text, rfl, hlt, hlt', rfl⟩ := texts_eq_some h
    exact ⟨⟨hlt, hlt'⟩, h3 ▸ rfl⟩
  · cases h

/-! ### The handlers -/

/-- The length of the topic at the front of a buffer. -/
def topicLength (buffer : Bytes) : ℕ := value ((buffer.drop 1).take 4)

/-- The header and the topic are there, but not all of the length that follows. -/
def Overrun (buffer : Bytes) : Prop :=
  9 ≤ buffer.length ∧ 5 + topicLength buffer ≤ buffer.length ∧ buffer.length < 9 + topicLength buffer

instance (buffer : Bytes) : Decidable (Overrun buffer) := inferInstanceAs (Decidable (_ ∧ _))

theorem texts_of_lt {make : Bytes → Bytes → Request} {rest : Bytes}
    (h : rest.length < 8 + value (rest.take 4)) : texts make rest = none := by
  rw [texts, Decoder.andThen, field_eq]
  split_ifs with hfield
  · rw [Option.bind_some, Decoder.andThen, field_eq, if_neg]
    · rfl
    · rw [List.length_drop]
      omega
  · rfl

theorem texts_of_le {make : Bytes → Bytes → Request} {rest : Bytes}
    (h : 8 + value (rest.take 4) ≤ rest.length) :
    texts make rest = ((field 4 (rest.drop (4 + value (rest.take 4)))).map fun found =>
      (make ((rest.drop 4).take (value (rest.take 4))) found.1, found.2)) := by
  rw [texts, Decoder.andThen, field_eq, if_pos (by omega), Option.bind_some, Decoder.andThen]
  cases field 4 (rest.drop (4 + value (rest.take 4))) <;> rfl

/-- **One request.**  Where a handler does not overrun, it takes a request off the front if there is a
complete one. -/
theorem handleRequest_eq {op : UInt8} {make : Bytes → Bytes → Request} (rest : Bytes)
    (hop : requestKind op = some make) :
    handleRequest make (op :: rest) =
      if Overrun (op :: rest) then .error .outOfRange else .ok (request (op :: rest)) := by
  have htopic : topicLength (op :: rest) = value (rest.take 4) := rfl
  have hlen : (op :: rest).length = rest.length + 1 := rfl
  rw [request_cons rest hop, handleRequest]
  by_cases hheader : rest.length < 8
  · rw [if_pos (by omega), if_neg fun h => absurd h.1 (by omega), texts_of_lt (by omega)]
    rfl
  rw [if_neg (by omega)]
  have hfirst : get32le (op :: rest) 1 = .ok (value (rest.take 4)) := get32le_ok (by omega)
  have hbuffer : (op :: rest).drop (1 + 4) = rest.drop 4 := rfl
  set n := value (rest.take 4) with hn
  simp only [hfirst, ok_bind, hbuffer]
  by_cases hshort : 1 + 4 + n > (op :: rest).length
  · rw [if_pos hshort, if_neg fun h => absurd h.2.1 (by omega), texts_of_lt (by omega)]
    rfl
  rw [if_neg hshort]
  by_cases hsecond : (op :: rest).length < 1 + 4 + n + 4
  · rw [get32le_error hsecond, if_pos ⟨by omega, by omega, by omega⟩]
    rfl
  have hnot : ¬ Overrun (op :: rest) := fun h => absurd h.2.2 (by omega)
  have hmid : (op :: rest).drop (1 + 4 + n) = rest.drop (4 + n) := by
    rw [show 1 + 4 + n = 4 + n + 1 by omega, List.drop_succ_cons]
  rw [get32le_ok (by omega), hmid, if_neg hnot, texts_of_le (by omega), field_eq, ok_bind, ← hn,
    List.length_drop]
  set m := value ((rest.drop (4 + n)).take 4)
  by_cases hend : 1 + 4 + n + 4 + m > (op :: rest).length
  · rw [if_pos hend, if_neg fun h => absurd h.2 (by omega)]
    rfl
  · have htext : (op :: rest).drop (1 + 4 + n + 4) = (rest.drop (4 + n)).drop 4 := by
      rw [List.drop_drop, show 1 + 4 + n + 4 = 4 + n + 4 + 1 by omega, List.drop_succ_cons]
    have hleft : (op :: rest).drop (1 + 4 + n + 4 + m) = (rest.drop (4 + n)).drop (4 + m) := by
      rw [List.drop_drop, show 1 + 4 + n + 4 + m = 4 + n + (4 + m) + 1 by omega, List.drop_succ_cons]
    rw [if_neg hend, if_pos ⟨by omega, by omega⟩, htext, hleft]
    rfl

/-! ### The loop -/

/-- Whether an operation byte begins a request. -/
def isOperation (op : UInt8) : Bool := (requestKind op).isSome

theorem not_reads_request_nil (r : Request) : ¬ Reads request r [] := fun h => nomatch h []

/-- What stands at the front of the buffer of a client. -/
def requestScanner : Scanner UInt8 Request :=
  .ofDecoder request isOperation stable_request not_reads_request_nil

/-- What a text holds: its complete requests, the rest, and whether an unknown operation follows them. -/
def requests (text : Bytes) : Found UInt8 Request := requestScanner.drain text

/-- The client would wait for more, but a handler has read past the end of its buffer. -/
def Overruns (found : Found UInt8 Request) : Prop := found.rejected = false ∧ Overrun found.rest

instance (found : Found UInt8 Request) : Decidable (Overruns found) :=
  inferInstanceAs (Decidable (_ ∧ _))

theorem Overrun.request_eq_none {op : UInt8} {make : Bytes → Bytes → Request} {rest : Bytes}
    (h : Overrun (op :: rest)) (hop : requestKind op = some make) : request (op :: rest) = none := by
  have hlt : rest.length + 1 < 9 + value (rest.take 4) := h.2.2
  rw [request_cons rest hop, texts_of_lt (by omega)]

theorem readLoop_known {op : UInt8} {make : Bytes → Bytes → Request} (fuel : ℕ) (rest : Bytes)
    (h : requestKind op = some make) : readLoop (fuel + 1) (op :: rest) =
      (handleRequest make (op :: rest)).bind fun
        | none => .ok ⟨[], op :: rest, false⟩
        | some (r, buffer) => (readLoop fuel buffer).map (·.push r) := by
  rw [readLoop, handler_eq, h]
  rfl

/-- **The reading loop.**  With enough fuel it takes off all complete requests, and it overruns exactly
when what is left then says so. -/
theorem readLoop_eq {fuel : ℕ} {buffer : Bytes} (h : buffer.length < fuel) :
    readLoop fuel buffer =
      if Overruns (requests buffer) then .error .outOfRange else .ok (requests buffer) := by
  obtain ⟨fuel, rfl⟩ : ∃ k, fuel = k + 1 := ⟨fuel - 1, by omega⟩
  induction buffer using requestScanner.drain_induct generalizing fuel with
  | hreject text hf =>
      obtain ⟨op, tail, rfl, hop⟩ := of_frontOf_reject hf
      have hnone : requestKind op = none := Option.isNone_iff_eq_none.mp (Option.isSome_eq_false_iff.mp hop)
      rw [requests, requestScanner.drain_reject hf, if_neg fun h => absurd h.1 (by simp), readLoop,
        handler_eq, hnone]
      rfl
  | hwait text hf =>
      rw [requests, requestScanner.drain_wait hf]
      obtain rfl | ⟨op, tail, rfl, hop, hnone⟩ := of_frontOf_wait hf
      · exact (if_neg fun h => absurd h.2.1 (by simp)).symm
      · obtain ⟨make, hmake⟩ := Option.isSome_iff_exists.mp hop
        rw [readLoop_known fuel tail hmake, handleRequest_eq tail hmake, hnone]
        by_cases hover : Overrun (op :: tail)
        · rw [if_pos hover, if_pos ⟨rfl, hover⟩]
          rfl
        · rw [if_neg hover, if_neg fun h => hover h.2]
          rfl
  | hitem text r rest hf ih =>
      have hlt := requestScanner.rest_length_lt hf
      obtain ⟨op, tail, rfl, hop, hsome⟩ := of_frontOf_item hf
      obtain ⟨make, hmake⟩ := Option.isSome_iff_exists.mp hop
      have hnot : ¬ Overrun (op :: tail) := by
        intro hover
        rw [hover.request_eq_none hmake] at hsome
        cases hsome
      obtain ⟨fuel, rfl⟩ : ∃ k, fuel = k + 1 := ⟨fuel - 1, by omega⟩
      rw [readLoop_known _ tail hmake, handleRequest_eq tail hmake, if_neg hnot, hsome, requests,
        requestScanner.drain_item hf]
      show (readLoop (fuel + 1) rest).map (·.push r) = _
      rw [ih fuel (by omega)]
      by_cases hover : Overruns (requests rest)
      · rw [if_pos hover]
        exact (if_pos (show Overruns ((requests rest).push r) from hover)).symm
      · rw [if_neg hover]
        exact (if_neg (show ¬ Overruns ((requests rest).push r) from hover)).symm

/-! ### What the peer writes -/

/-- **Round trip.**  Requests that have been written one after the other are found one after the other,
and then whatever follows them. -/
theorem requests_encode {rs : List Request} (tail : Bytes) (h : ∀ r ∈ rs, r.Fits) :
    requests (rs.flatMap Request.encode ++ tail) =
      ⟨rs ++ (requests tail).items, (requests tail).rest, (requests tail).rejected⟩ := by
  apply requestScanner.drain_reads
  intro r hr more
  obtain ⟨make, hmake, -⟩ := r.requestKind_op
  exact frontOf_item (Option.isSome_iff_exists.mpr ⟨make, hmake⟩) (reads_request (h r hr) more)

/-- Whatever a text is, it is the requests that are found in it and the rest. -/
theorem requests_accounted (text : Bytes) :
    text = (requests text).items.flatMap Request.encode ++ (requests text).rest ∧
      ∀ r ∈ (requests text).items, r.Fits := by
  induction text using requestScanner.drain_induct with
  | hwait text hf =>
      rw [requests, requestScanner.drain_wait hf]
      exact ⟨rfl, List.forall_mem_nil _⟩
  | hreject text hf =>
      rw [requests, requestScanner.drain_reject hf]
      exact ⟨rfl, List.forall_mem_nil _⟩
  | hitem text r rest hf ih =>
      obtain ⟨op, tail, rfl, -, hsome⟩ := of_frontOf_item hf
      obtain ⟨hfits, htext⟩ := request_eq_some hsome
      rw [requests, requestScanner.drain_item hf]
      refine ⟨?_, List.forall_mem_cons.mpr ⟨hfits, ih.2⟩⟩
      show op :: tail = (r :: (requests rest).items).flatMap Request.encode ++ (requests rest).rest
      rw [List.flatMap_cons, List.append_assoc, ← ih.1, htext]

/-- The beginning of a request is kept until the rest arrives. -/
theorem requests_begun {r : Request} {begun missing : Bytes} (h : r.Fits)
    (hr : r.encode = begun ++ missing) (hmissing : missing ≠ []) : requests begun = ⟨[], begun, false⟩ := by
  apply requestScanner.drain_wait
  cases begun with
  | nil => rfl
  | cons op tail =>
      obtain ⟨make, hmake, -⟩ := r.requestKind_op
      obtain ⟨rfl, -⟩ := List.cons.inj hr
      exact frontOf_wait (Option.isSome_iff_exists.mpr ⟨make, hmake⟩)
        (stable_request.truncated (reads_request h) hr hmissing)

/-- A text that `a` and what follows it begin with ends inside `a` or after it. -/
theorem cut_cases {text missing a rest : Bytes} (h : text ++ missing = a ++ rest) :
    (∃ more, more ≠ [] ∧ a = text ++ more) ∨ ∃ past, text = a ++ past ∧ past ++ missing = rest := by
  obtain ⟨more, hmore, hmissing⟩ | ⟨past, hpast, hrest⟩ := List.append_eq_append_iff.mp h
  · by_cases hnil : more = []
    · subst hnil
      exact .inr ⟨[], by rw [hmore, List.append_nil, List.append_nil], hmissing⟩
    · exact .inl ⟨more, hnil, hmore⟩
  · exact .inr ⟨past, hpast, hrest.symm⟩

end HitchOpen.LgsvlBridge
