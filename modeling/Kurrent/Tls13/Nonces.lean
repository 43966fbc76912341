import Mathlib.Data.List.Nodup
import Kurrent.Tls13.PeerAuthentication

namespace Kurrent
namespace Tls13

open Library

/-!
# No nonce is used twice

The transmit key changes in two places, and both reset the sequence number: a
ServerHello installs the client handshake key, and the transmission that
completes the client Finished installs the client application key.  A peer can
make either happen again and again, in phases they were not written for.

What keeps the nonces apart is that the transcript grows with every message a
key is derived after.  The invariant keeps a ledger of the records sealed so
far, each entered under the derivation its key came from and the count it was
sealed at.  No derivation is installed twice, and under one derivation the
counts only rise.  Only the last step, from the ledger to keys and nonces,
needs that different derivations give different keys.
-/

/-- Where a transmit key comes from. -/
inductive Origin
  /-- The all-zero key of a new connection. -/
  | initial
  | derived (secret : Bytes) (label : String) (transcript : Bytes)
  deriving DecidableEq

/-- The derivations of a history, and the key it starts with. -/
def origins (trace : List Mark) : List Origin :=
  .initial :: trace.filterMap (fun mark =>
    match mark with
    | .derived secret label transcript => some (.derived secret label transcript)
    | _ => none)

/-- The calls of `tls13_seal()`: key, write nonce and sequence number. -/
def sealings (trace : List Mark) : List (Bytes × Bytes × UInt64) :=
  trace.filterMap (fun mark =>
    match mark with
    | .sealed key iv seq => some (key, iv, seq)
    | _ => none)

section Ledger

variable (crypto : Primitives)

/-- The traffic secret of a derivation; the initial key has none. -/
def Origin.secret : Origin -> Bytes
  | .initial => []
  | .derived secret label transcript => deriveSecret crypto secret label transcript

def Origin.key : Origin -> Bytes
  | .initial => List.replicate keyLen 0
  | .derived secret label transcript => trafficKey crypto (deriveSecret crypto secret label transcript)

def Origin.iv : Origin -> Bytes
  | .initial => List.replicate nonceLen 0
  | .derived secret label transcript => trafficIv crypto (deriveSecret crypto secret label transcript)

/-- The length of the transcript a key was derived from. -/
def Origin.age : Origin -> Nat
  | .initial => 0
  | .derived _ _ transcript => transcript.length

/-- An entry of the ledger: where the key came from, and the count. -/
structure Entry where
  origin : Origin
  count : Nat
  deriving DecidableEq

/-- The call it stands for. -/
def Entry.sealing (entry : Entry) : Bytes × Bytes × UInt64 :=
  (entry.origin.key crypto, entry.origin.iv crypto, UInt64.ofNat entry.count)

/-- A ledger of a history in which `current` is the key in use and `count`
the next sequence number. -/
structure Ledger (trace : List Mark) (current : Origin) (count : Nat) (entries : List Entry) : Prop where
  calls : sealings trace = entries.map (Entry.sealing crypto)
  distinct : entries.Nodup
  known : forall entry, entry ∈ entries -> entry.origin ∈ origins trace
  installed : current ∈ origins trace
  rising : forall entry, entry ∈ entries -> entry.origin = current -> entry.count < count
  few : count ≤ entries.length
  bounded : forall entry, entry ∈ entries -> entry.count < entries.length

variable {T U : Type}

/-- The ledger of a connection, and the key that waits for the client's
Finished to be transmitted, which has not been used. -/
structure Fresh (tls : Conn T U) (current : Origin) (count : Nat) (entries : List Entry) : Prop where
  ledger : Ledger crypto tls.trace current count entries
  key : tls.txKey = current.key crypto
  iv : tls.txIv = current.iv crypto
  seq : tls.txSeq = UInt64.ofNat count
  aged : forall origin, origin ∈ origins tls.trace -> origin.age ≤ tls.hs.transcript.length
  waiting : tls.phase = .clientFinished -> Exists fun next : Origin =>
    next ∈ origins tls.trace ∧ next ≠ .initial ∧ tls.clientAp = next.secret crypto ∧ next ≠ current ∧
    forall entry, entry ∈ entries -> entry.origin ≠ next

/-- Some ledger of the connection is in order. -/
def Ordered (tls : Conn T U) : Prop :=
  Exists fun current : Origin => Exists fun count : Nat => Exists fun entries : List Entry =>
    Fresh crypto tls current count entries

variable {crypto} {tls next : Conn T U} {current : Origin} {count : Nat} {entries : List Entry}

/-- Neither a call nor a derivation is added. -/
theorem Fresh.frame (fresh : Fresh crypto tls current count entries)
    (sameCalls : sealings next.trace = sealings tls.trace) (sameOrigins : origins next.trace = origins tls.trace)
    (key : next.txKey = tls.txKey) (iv : next.txIv = tls.txIv) (seq : next.txSeq = tls.txSeq)
    (longer : tls.hs.transcript.length ≤ next.hs.transcript.length) (secret : next.clientAp = tls.clientAp)
    (phase : next.phase = .clientFinished -> tls.phase = .clientFinished) :
    Fresh crypto next current count entries where
  ledger :=
    { calls := sameCalls.trans fresh.ledger.calls
      distinct := fresh.ledger.distinct
      known := fun entry member => sameOrigins ▸ fresh.ledger.known entry member
      installed := sameOrigins ▸ fresh.ledger.installed
      rising := fresh.ledger.rising
      few := fresh.ledger.few
      bounded := fresh.ledger.bounded }
  key := key.trans fresh.key
  iv := iv.trans fresh.iv
  seq := seq.trans fresh.seq
  aged origin member := Nat.le_trans (fresh.aged origin (sameOrigins ▸ member)) longer
  waiting due := by
    rw [sameOrigins, secret]
    exact fresh.waiting (phase due)

/-- A record is sealed. -/
theorem Fresh.seal (fresh : Fresh crypto tls current count entries) (iobuf : Option Iobuf) :
    Fresh crypto { tls with txSeq := tls.txSeq + 1, txIobuf := iobuf,
                            trace := .sealed tls.txKey tls.txIv tls.txSeq :: tls.trace }
      current (count + 1) (⟨current, count⟩ :: entries) where
  ledger :=
    { calls := by
        change (tls.txKey, tls.txIv, tls.txSeq) :: sealings tls.trace = _
        rw [fresh.ledger.calls, fresh.key, fresh.iv, fresh.seq]
        rfl
      distinct := by
        refine List.nodup_cons.mpr ⟨fun member => ?_, fresh.ledger.distinct⟩
        exact Nat.lt_irrefl count (fresh.ledger.rising _ member rfl)
      known := by
        intro entry member
        rcases List.mem_cons.mp member with rfl | earlier
        · exact fresh.ledger.installed
        · exact fresh.ledger.known entry earlier
      installed := fresh.ledger.installed
      rising := by
        intro entry member same
        rcases List.mem_cons.mp member with rfl | earlier
        · exact Nat.lt_succ_self count
        · exact Nat.lt_succ_of_lt (fresh.ledger.rising entry earlier same)
      few := Nat.succ_le_succ fresh.ledger.few
      bounded := by
        intro entry member
        rcases List.mem_cons.mp member with rfl | earlier
        · exact Nat.lt_succ_of_le fresh.ledger.few
        · exact Nat.lt_succ_of_lt (fresh.ledger.bounded entry earlier) }
  key := fresh.key
  iv := fresh.iv
  seq := by
    change tls.txSeq + 1 = UInt64.ofNat (count + 1)
    rw [fresh.seq, UInt64.ofNat_add]
    rfl
  aged := fresh.aged
  waiting due := by
    rcases fresh.waiting due with ⟨next, known, real, secret, other, unused⟩
    refine ⟨next, known, real, secret, other, fun entry member => ?_⟩
    rcases List.mem_cons.mp member with rfl | earlier
    · exact other.symm
    · exact unused entry earlier

theorem Origin.key_of_secret {origin : Origin} (real : origin ≠ .initial) :
    trafficKey crypto (origin.secret crypto) = origin.key crypto ∧
      trafficIv crypto (origin.secret crypto) = origin.iv crypto := by
  cases origin with
  | initial => exact absurd rfl real
  | derived => exact ⟨rfl, rfl⟩

/-- The key that was waiting is installed by the transmission. -/
theorem Fresh.transmit (fresh : Fresh crypto tls current count entries) (socket : T) (iobuf : Iobuf) :
    Ordered crypto (transmitted crypto socket tls iobuf) := by
  have trace := transmitted_trace crypto socket tls iobuf
  have sameCalls : sealings (transmitted crypto socket tls iobuf).trace = sealings tls.trace := by
    rw [trace]
    split <;> rfl
  have sameOrigins : origins (transmitted crypto socket tls iobuf).trace = origins tls.trace := by
    rw [trace]
    split <;> rfl
  by_cases due : tls.phase = .clientFinished
  · rcases fresh.waiting due with ⟨next, known, real, secret, other, unused⟩
    have keys : trafficKey crypto (next.secret crypto) = next.key crypto ∧ _ := Origin.key_of_secret real
    refine ⟨next, 0, entries, ⟨?_, ?_, ?_, ?_, ?_, ?_⟩⟩
    · exact {
        calls := sameCalls.trans fresh.ledger.calls
        distinct := fresh.ledger.distinct
        known := fun entry member => sameOrigins ▸ fresh.ledger.known entry member
        installed := sameOrigins ▸ known
        rising := fun entry member same => absurd same (unused entry member)
        few := Nat.zero_le _
        bounded := fresh.ledger.bounded }
    · simp only [transmitted, if_pos due, secret, keys.1]
    · simp only [transmitted, if_pos due, secret, keys.2]
    · simp only [transmitted, if_pos due]
      rfl
    · rw [sameOrigins]
      simp only [transmitted, if_pos due]
      exact fresh.aged
    · rw [transmitted_phase, if_pos due]
      intro impossible
      cases impossible
  · refine ⟨current, count, entries, fresh.frame sameCalls sameOrigins ?_ ?_ ?_ ?_ ?_ ?_⟩
    · simp only [transmitted, if_neg due]
    · simp only [transmitted, if_neg due]
    · simp only [transmitted, if_neg due]
    · simp only [transmitted, if_neg due, Nat.le_refl]
    · simp only [transmitted, if_neg due]
    · rw [transmitted_phase, if_neg due]
      exact id

/-- A derivation from a longer transcript is new. -/
theorem Fresh.unknown (fresh : Fresh crypto tls current count entries) {secret msg : Bytes} {label : String}
    (nonempty : 0 < msg.length) : Origin.derived secret label (tls.hs.transcript ++ msg) ∉ origins tls.trace := by
  intro member
  have old := fresh.aged _ member
  simp only [Origin.age, List.length_append] at old
  omega

/-- The origins after a derivation. -/
theorem mem_origins_derived {trace : List Mark} {secret transcript : Bytes} {label : String} {origin : Origin} :
    origin ∈ origins (.derived secret label transcript :: trace) ↔
      origin = .derived secret label transcript ∨ origin ∈ origins trace := by
  simp only [origins, List.filterMap_cons, List.mem_cons]
  constructor
  · rintro (first | same | member)
    · exact Or.inr (Or.inl first)
    · exact Or.inl same
    · exact Or.inr (Or.inr member)
  · rintro (same | first | member)
    · exact Or.inr (Or.inl same)
    · exact Or.inl first
    · exact Or.inr (Or.inr member)

theorem Fresh.serverHello (fresh : Fresh crypto tls current count entries) {hs : Handshake}
    {msg publicKey shared : Bytes} (updated : tls.hs.update msg = some hs) (nonempty : 0 < msg.length) :
    Ordered crypto (withHandshakeKeys crypto tls hs publicKey shared) := by
  cases Handshake.update_spec updated
  have unknown : Origin.derived (handshakeSecret crypto tls.hs.early shared) "c hs traffic"
      (tls.hs.transcript ++ msg) ∉ origins tls.trace := fresh.unknown nonempty
  refine ⟨.derived (handshakeSecret crypto tls.hs.early shared) "c hs traffic" (tls.hs.transcript ++ msg), 0,
    entries, ⟨?_, rfl, rfl, rfl, ?_, fun due => ?_⟩⟩
  · exact {
      calls := fresh.ledger.calls
      distinct := fresh.ledger.distinct
      known := fun entry member => mem_origins_derived.mpr (Or.inr (fresh.ledger.known entry member))
      installed := mem_origins_derived.mpr (Or.inl rfl)
      rising := fun entry member same => absurd (same ▸ fresh.ledger.known entry member) unknown
      few := Nat.zero_le _
      bounded := fresh.ledger.bounded }
  · intro origin member
    change origin.age ≤ (tls.hs.transcript ++ msg).length
    rcases mem_origins_derived.mp member with rfl | earlier
    · exact Nat.le_refl _
    · have old := fresh.aged origin earlier
      rw [List.length_append]
      omega
  · rcases fresh.waiting due with ⟨next, known, real, secret, _, unused⟩
    refine ⟨next, mem_origins_derived.mpr (Or.inr known), real, secret, ?_, unused⟩
    intro same
    exact unknown (same ▸ known)

theorem Fresh.serverFinished (fresh : Fresh crypto tls current count entries) {hs : Handshake}
    {msg verify : Bytes} (updated : tls.hs.update msg = some hs) (nonempty : 0 < msg.length) :
    Ordered crypto (withApplicationKeys crypto tls hs verify) := by
  cases Handshake.update_spec updated
  have unknown : Origin.derived (masterSecret crypto tls.hs.handshake) "c ap traffic"
      (tls.hs.transcript ++ msg) ∉ origins tls.trace := fresh.unknown nonempty
  refine ⟨current, count, entries, ⟨?_, fresh.key, fresh.iv, fresh.seq, ?_, fun _ => ?_⟩⟩
  · exact {
      calls := fresh.ledger.calls
      distinct := fresh.ledger.distinct
      known := fun entry member => mem_origins_derived.mpr (Or.inr (fresh.ledger.known entry member))
      installed := mem_origins_derived.mpr (Or.inr fresh.ledger.installed)
      rising := fresh.ledger.rising
      few := fresh.ledger.few
      bounded := fresh.ledger.bounded }
  · intro origin member
    change origin.age ≤ (tls.hs.transcript ++ msg).length
    rcases mem_origins_derived.mp member with rfl | earlier
    · exact Nat.le_refl _
    · have old := fresh.aged origin earlier
      rw [List.length_append]
      omega
  · refine ⟨.derived (masterSecret crypto tls.hs.handshake) "c ap traffic" (tls.hs.transcript ++ msg),
      mem_origins_derived.mpr (Or.inl rfl), (nomatch ·), rfl, ?_, ?_⟩
    · rintro rfl
      exact unknown fresh.ledger.installed
    · intro entry member same
      exact unknown (same ▸ fresh.ledger.known entry member)

theorem Ordered.move (move : Move crypto tls next) (ordered : Ordered crypto tls) : Ordered crypto next := by
  rcases ordered with ⟨current, count, entries, fresh⟩
  cases move with
  | quiet | «open» | deliver =>
      exact ⟨current, count, entries, fresh.frame rfl rfl rfl rfl rfl (Nat.le_refl _) rfl id⟩
  | append msg hs updated =>
      cases Handshake.update_spec updated
      refine ⟨current, count, entries, fresh.frame rfl rfl rfl rfl rfl ?_ rfl id⟩
      simp only [List.length_append, Nat.le_add_right]
  | constructHello msg record hs updated =>
      cases Handshake.update_spec updated
      refine ⟨current, count, entries, fresh.frame rfl rfl rfl rfl rfl ?_ rfl (nomatch ·)⟩
      simp only [List.length_append, Nat.le_add_right]
  | constructFinished record => exact ⟨current, count + 1, _, fresh.seal _⟩
  | constructData record => exact ⟨current, count + 1, _, fresh.seal _⟩
  | transmit iobuf socket => exact fresh.transmit socket iobuf
  | shutdown =>
      exact ⟨current, count, entries, fresh.frame rfl rfl rfl rfl rfl (Nat.le_refl _) rfl (nomatch ·)⟩
  | serverHello msg publicKey shared hs updated _ nonempty => exact fresh.serverHello updated nonempty
  | serverFinished msg verify hs updated _ nonempty => exact fresh.serverFinished updated nonempty

theorem Ordered.moves (moves : Moves crypto tls next) (ordered : Ordered crypto tls) : Ordered crypto next := by
  induction moves with
  | refl => exact ordered
  | tail _ move inductionHypothesis => exact inductionHypothesis.move move

theorem Ordered.fresh (psk identity privateKey publicKey : Bytes) (random : Option Bytes) (socket : T) (state : U) :
    Ordered crypto (fresh crypto psk identity privateKey publicKey random socket state) := by
  refine ⟨.initial, 0, [], ⟨⟨rfl, List.nodup_nil, ?_, List.mem_cons_self, ?_, Nat.le_refl 0, ?_⟩, rfl, rfl, rfl, ?_,
    (nomatch ·)⟩⟩
  · exact fun _ member => nomatch member
  · exact fun _ member => nomatch member
  · exact fun _ member => nomatch member
  · intro origin member
    cases List.mem_singleton.mp member
    exact Nat.le_refl 0

end Ledger

/-! ## From the ledger to keys and nonces -/

theorem xor_injective {mask first second : Bytes} (firstLength : first.length = mask.length)
    (secondLength : second.length = mask.length)
    (same : List.zipWith (fun left right => left ^^^ right) mask first =
      List.zipWith (fun left right => left ^^^ right) mask second) : first = second := by
  induction mask generalizing first second with
  | nil => rw [List.eq_nil_of_length_eq_zero firstLength, List.eq_nil_of_length_eq_zero secondLength]
  | cons byte mask inductionHypothesis =>
      cases first with
      | nil => cases firstLength
      | cons left first =>
          cases second with
          | nil => cases secondLength
          | cons right second =>
              rcases List.cons.inj same with ⟨head, tail⟩
              have bytes := congrArg (fun other => byte ^^^ other) head
              simp only [← UInt8.xor_assoc, UInt8.xor_self, UInt8.zero_xor] at bytes
              rw [bytes, inductionHypothesis (Nat.succ.inj firstLength) (Nat.succ.inj secondLength) tail]

/-- The write nonce and the nonce determine the sequence number. -/
theorem nonce_injective {iv : Bytes} (length : iv.length = nonceLen) {first second : UInt64}
    (same : nonce iv first = nonce iv second) : first = second := by
  have mask : (iv.drop (nonceLen - 8)).length = 8 := by
    rw [List.length_drop, length]
    rfl
  have counters : be 8 first.toNat = be 8 second.toNat := by
    refine xor_injective ?_ ?_ (List.append_cancel_left same)
    · rw [mask, length_be]
    · rw [mask, length_be]
  have numbers := congrArg fromLe (List.reverse_injective counters)
  have firstSmall : first.toNat < 256 ^ 8 := first.toNat_lt
  have secondSmall : second.toNat < 256 ^ 8 := second.toNat_lt
  rw [fromLe_le_of_lt firstSmall, fromLe_le_of_lt secondSmall] at numbers
  exact UInt64.toNat_inj.mp numbers

section Run

variable {T U : Type}

/-- Key and nonce of each call of `tls13_seal()`. -/
def nonces (trace : List Mark) : List (Bytes × Bytes) :=
  (sealings trace).map (fun call => (call.1, nonce call.2.1 call.2.2))

/-- Keys of different origins are different: each was derived from another
secret, label and transcript, or is the one that was not derived. -/
def Separated (crypto : Primitives) (trace : List Mark) : Prop :=
  forall first second, first ∈ origins trace -> second ∈ origins trace ->
    first.key crypto = second.key crypto -> first = second

theorem Origin.length_iv (crypto : Primitives) (origin : Origin) : (origin.iv crypto).length = nonceLen := by
  cases origin with
  | initial => exact List.length_replicate
  | derived => exact crypto.hkdfExpand_length _ _ _

/-- In every run of a connection, whatever the peer, the socket and the
consumer do, no two records are sealed with the same key and nonce, as long
as there are fewer than 2^64 of them and the keys of different derivations
are different. -/
theorem nonces_distinct (crypto : Primitives) (xfer : Xfer T) (consumer : Consumer U) (psk identity : Bytes)
    (privateKey random : Option Bytes) (socket : Option T) (state : U) (start : Conn T U) (events : List (Event T))
    (created : addTls13Psk crypto xfer psk identity privateKey random socket state = some start)
    (separated : Separated crypto (run crypto xfer consumer start events).trace)
    (few : (nonces (run crypto xfer consumer start events).trace).length < 2 ^ 64) :
    (nonces (run crypto xfer consumer start events).trace).Nodup := by
  rcases moves_of_created xfer consumer created events with ⟨secret, publicKey, opened, _, _, moves⟩
  rcases (Ordered.fresh psk identity secret publicKey random opened state).moves moves with
    ⟨current, count, entries, fresh⟩
  have ledger := fresh.ledger
  rw [nonces, ledger.calls, List.map_map] at few ⊢
  rw [List.length_map] at few
  refine List.Nodup.map_on ?_ ledger.distinct
  intro first firstMember second secondMember same
  have sameKey := congrArg Prod.fst same
  have sameNonce := congrArg Prod.snd same
  have origin : first.origin = second.origin :=
    separated _ _ (ledger.known first firstMember) (ledger.known second secondMember) sameKey
  simp only [Function.comp_apply, Entry.sealing, origin] at sameNonce
  have seq := congrArg UInt64.toNat (nonce_injective (second.origin.length_iv crypto) sameNonce)
  have firstSmall := Nat.lt_trans (ledger.bounded first firstMember) few
  have secondSmall := Nat.lt_trans (ledger.bounded second secondMember) few
  rw [UInt64.toNat_ofNat_of_lt' firstSmall, UInt64.toNat_ofNat_of_lt' secondSmall] at seq
  rcases first with ⟨firstOrigin, firstCount⟩
  cases origin
  cases seq
  rfl

end Run

instance separatedDecidable (crypto : Primitives) (trace : List Mark) : Decidable (Separated crypto trace) :=
  decidable_of_iff (forall first, first ∈ origins trace -> forall second, second ∈ origins trace ->
    first.key crypto = second.key crypto -> first = second)
    ⟨fun holds first second firstMember secondMember => holds first firstMember second secondMember,
      fun holds first firstMember second secondMember => holds first second firstMember secondMember⟩

/-- The honest flight, then two records of data. -/
def honestTraffic : List (Event (List Bytes)) :=
  honestFlight ++ [.plain [1], .plain [2, 3]]

theorem honest_nonces_distinct :
    (nonces (run samplePrimitives openXfer idleConsumer sampleStart honestTraffic).trace).length = 3 ∧
    (nonces (run samplePrimitives openXfer idleConsumer sampleStart honestTraffic).trace).Nodup :=
  ⟨by decide +kernel, nonces_distinct samplePrimitives openXfer idleConsumer [1] (ascii "host")
    (some (List.replicate 32 7)) (some (List.replicate 32 5)) (some []) () sampleStart honestTraffic sample_created
    (by decide +kernel) (by decide +kernel)⟩

end Tls13
end Kurrent
