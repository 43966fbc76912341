import Kurrent.Nbct.KeyHandoff
import Kurrent.Tls13.ClientHelloGrammar

namespace Kurrent
namespace Nbct

open Library Tls13 Rfc8446

/-!
# Room for the identity

The identity of a pre-shared key is bounded in one file, the ClientHello that
carries it in a second, and the transcript that keeps the ClientHello in a
third.  The ClientHello has 157 bytes besides the identity, and its buffer
512.  Longer identities are accepted as parameters of the connection, which
then cannot send its first message.
-/

section Offer

variable {T U : Type} (crypto : Primitives) (xfer : Xfer T)

/-- The ClientHello of the connection is constructed within its buffer, and
the transcript has room for the shortest flight of a server: a hello, no
encrypted extensions and a Finished. -/
def OffersIdentity (tls : Conn T U) : Prop :=
  Exists fun record : Bytes => Exists fun next : Conn T U =>
    clientHelloRecord crypto xfer tls = some (record, next) ∧ record.length ≤ 5 + maxClientHello ∧
    forall (server : Server) (verify : Bytes), server.encryptedExtensions = be 2 0 -> verify.length = digestSize ->
      Exists fun hs : Handshake => ((next.hs.update server.hello).bind (fun hs =>
        hs.update server.extensionsMessage)).bind (fun hs => hs.update (message 20 verify)) = some hs

variable {crypto xfer}

theorem update_room {hs : Handshake} {msg : Bytes} (room : hs.transcript.length + msg.length ≤ transcriptSize) :
    hs.update msg = some { hs with transcript := hs.transcript ++ msg } :=
  if_neg (by omega)

/-- Three messages that fit together fit one after another. -/
theorem update_three {hs : Handshake} {first second third : Bytes}
    (room : hs.transcript.length + first.length + second.length + third.length ≤ transcriptSize) :
    Exists fun last : Handshake => ((hs.update first).bind (fun hs => hs.update second)).bind
      (fun hs => hs.update third) =
      some last := by
  rw [update_room (by omega), Option.bind_some, update_room (by rw [List.length_append]; omega), Option.bind_some,
    update_room (by rw [List.length_append, List.length_append]; omega)]
  exact ⟨_, rfl⟩

theorem length_hello (server : Server) : server.hello.length = 96 := by
  simp only [hello_split, List.length_append, length_be, length_extensions, server.random_length, List.length_singleton]

section Created

variable {psk identity privateKey publicKey random : Bytes} {socket : T} {state : U}
  (memory : xfer.alloc socket (5 + maxClientHello) = true)

include memory

theorem clientHelloRecord_none
    (refused : clientHello crypto maxClientHello random publicKey psk identity "ext binder" = none) :
    clientHelloRecord crypto xfer (fresh crypto psk identity privateKey publicKey (some random) socket state) =
      none := by
  simp only [clientHelloRecord, fresh, memory, if_true, refused]

theorem clientHelloRecord_some {hello : Bytes}
    (constructed : clientHello crypto maxClientHello random publicKey psk identity "ext binder" = some hello)
    (room : hello.length ≤ transcriptSize) :
    Exists fun next : Conn T U =>
      clientHelloRecord crypto xfer (fresh crypto psk identity privateKey publicKey (some random) socket state) =
        some ([UInt8.ofNat typeHandshake] ++ be 2 versionTls12 ++ be 2 hello.length ++ hello, next) ∧
      next.hs.transcript = hello := by
  have updated : Handshake.update (fresh crypto psk identity privateKey publicKey (some random) socket state).hs hello =
      some { (fresh crypto psk identity privateKey publicKey (some random) socket state).hs
          with transcript := hello } :=
    update_room (by rw [fresh, List.length_nil, Nat.zero_add]; exact room)
  refine ⟨{ fresh crypto psk identity privateKey publicKey (some random) socket state with
    hs := { (fresh crypto psk identity privateKey publicKey (some random) socket state).hs with transcript := hello } },
    ?_, rfl⟩
  simp only [fresh] at updated
  simp only [clientHelloRecord, fresh, memory, if_true, constructed, updated]

end Created

/-- An identity that `nvmetcp_tls_params()` accepts is offered exactly if the
two names have at most 345 bytes together. -/
theorem accepted_identity_offered_iff {hex hostNqn subsystemNqn psk identity : Bytes}
    (accepted : tlsParams hex hostNqn subsystemNqn = some (psk, identity)) {random publicKey : Bytes}
    (randomLength : random.length = 32) (publicKeyLength : publicKey.length = 32) (privateKey : Bytes) {socket : T}
    (memory : xfer.alloc socket (5 + maxClientHello) = true) (state : U) :
    OffersIdentity crypto xfer (fresh crypto psk identity privateKey publicKey (some random) socket state) ↔
      hostNqn.length + subsystemNqn.length ≤ 345 := by
  have acceptable : Acceptable hex hostNqn subsystemNqn := by
    by_contra other
    rw [tlsParams_refused other] at accepted
    cases accepted
  rw [tlsParams_accepted acceptable] at accepted
  cases accepted
  have identityLength := length_pskIdentity hostNqn subsystemNqn
  have bounds : maxClientHello = 512 ∧ transcriptSize = 1024 ∧ digestSize = 32 := ⟨rfl, rfl, rfl⟩
  cases constructed : clientHello crypto maxClientHello random publicKey (leadingPairs hex)
      (pskIdentity hostNqn subsystemNqn) "ext binder" with
  | none =>
      have refused : (pskIdentity hostNqn subsystemNqn).length > 0xffff ∨
          maxClientHello < clientHelloNeeded (pskIdentity hostNqn subsystemNqn) := by
        unfold clientHello at constructed
        split_ifs at constructed with reason
        exact reason
      rw [clientHelloNeeded_eq] at refused
      have fits := acceptable.fits
      refine iff_of_false ?_ (by omega)
      rintro ⟨record, next, nothing, _⟩
      rw [clientHelloRecord_none memory constructed] at nothing
      cases nothing
  | some hello =>
      rcases makesOffer_clientHello randomLength publicKeyLength constructed with ⟨length, room, _, _⟩
      have recordLength : ([UInt8.ofNat typeHandshake] ++ be 2 versionTls12 ++ be 2 hello.length ++ hello).length =
          5 + hello.length := by
        simp only [List.length_append, length_be, List.length_singleton]
      rcases clientHelloRecord_some memory constructed (by omega) with ⟨next, built, transcript⟩
      constructor
      · rintro ⟨record, other, again, within, _⟩
        cases built.symm.trans again
        omega
      · intro short
        refine ⟨_, next, built, by omega, ?_⟩
        intro server verify empty verifyLength
        have first := length_hello server
        have second := length_message 8 server.encryptedExtensions
        have third := length_message 20 verify
        rw [empty, length_be] at second
        apply update_three
        rw [transcript, first, Server.extensionsMessage, empty, second, third]
        omega

end Offer

/-- A name of 223 bytes is offered with one of 122. -/
theorem sample_identity_offered :
    tlsParams (ascii "0a") (List.replicate 223 97) (List.replicate 122 98) =
      some ([10], pskIdentity (List.replicate 223 97) (List.replicate 122 98)) ∧
    OffersIdentity samplePrimitives openXfer (fresh samplePrimitives [10]
      (pskIdentity (List.replicate 223 97) (List.replicate 122 98)) [] (List.replicate 32 8)
      (some (List.replicate 32 5)) [] ()) := by
  have accepted : tlsParams (ascii "0a") (List.replicate 223 97) (List.replicate 122 98) =
      some ([10], pskIdentity (List.replicate 223 97) (List.replicate 122 98)) := by decide +kernel
  exact ⟨accepted, (accepted_identity_offered_iff accepted rfl rfl [] rfl ()).mpr (by
    rw [List.length_replicate, List.length_replicate])⟩

/-- Two names of 223 bytes are accepted and cannot be offered. -/
theorem long_names_not_offered :
    tlsParams (ascii "0a") (List.replicate 223 97) (List.replicate 223 98) =
      some ([10], pskIdentity (List.replicate 223 97) (List.replicate 223 98)) ∧
    ¬ OffersIdentity samplePrimitives openXfer (fresh samplePrimitives [10]
      (pskIdentity (List.replicate 223 97) (List.replicate 223 98)) [] (List.replicate 32 8)
      (some (List.replicate 32 5)) [] ()) := by
  refine ⟨by decide +kernel, ?_⟩
  have refused : clientHello samplePrimitives maxClientHello (List.replicate 32 5) (List.replicate 32 8) [10]
      (pskIdentity (List.replicate 223 97) (List.replicate 223 98)) "ext binder" = none := by decide +kernel
  rintro ⟨record, next, nothing, _⟩
  rw [clientHelloRecord_none rfl refused] at nothing
  cases nothing

end Nbct
end Kurrent
