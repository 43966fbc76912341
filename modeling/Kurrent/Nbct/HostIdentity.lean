import Kurrent.Nvmetcp.Frame
import Kurrent.Nbct.BootUri

namespace Kurrent
namespace Nbct

open Library
open Nvmetcp (zeros textField connectData Env AuthCrypto Session Event Queue Digest openSession run txConnect txCommand
  transformKey authResponse)

/-!
# One name for the host

The host NQN leaves the firmware in five places: in the Connect data of both
queues, in the key transformation and the response of the authentication, in
the identity of the TLS key, and in the boot credentials table.  Each place
copies the string with a bound of its own, and only the TLS identity is
checked for having been cut.  The subsystem NQN is checked when the URI is
parsed; the host NQN is not.

A session carries its name unchanged through every run.  The five places then
agree exactly when the name fits the field of the Connect data.
-/

/-- A name in a field of fixed size, filled up with zeros. -/
def zeroPadded (size : Nat) (name : Bytes) : Bytes :=
  name ++ zeros (size - name.length)

/-- The session of a boot URI after some run. -/
def Reached {T : Type} (env : Env T) (crypto : AuthCrypto) (boot : BootSession) (nvmetcp : Session T) : Prop :=
  Exists fun state : T => Exists fun hostId : Bytes => Exists fun start : Session T =>
    Exists fun events : List (Event T) => hostId.length = 16 ∧
      openSession env state boot.subsystemNqn.val boot.hostNqn.val hostId (boot.secret.map Subtype.val) = some start ∧
      nvmetcp = run env crypto start events

/-- The five places carry this name. -/
structure CarriesHostNqn (boot : BootSession) (name : CString) : Prop where
  /-- The Connect data, on either queue. -/
  connect : forall (T : Type) (env : Env T) (crypto : AuthCrypto) (nvmetcp : Session T),
    Reached env crypto boot nvmetcp -> forall (queue : Queue) (qid : Nat), Exists fun data : Bytes =>
      txConnect env nvmetcp queue qid = txCommand env nvmetcp.takeCid queue .connect (.connect qid) data 0 ∧
        (data.drop 512).take 256 = zeroPadded 256 name.val
  transform : forall (T : Type) (env : Env T) (crypto : AuthCrypto) (nvmetcp : Session T),
    Reached env crypto boot nvmetcp -> forall (digest : Digest) (key : Bytes),
      transformKey crypto nvmetcp digest key = crypto.hmac digest key (name.val ++ ascii "NVMe-over-Fabrics")
  response : forall (T : Type) (env : Env T) (crypto : AuthCrypto) (nvmetcp : Session T),
    Reached env crypto boot nvmetcp -> forall (digest : Digest) (key challenge : Bytes),
      authResponse crypto nvmetcp digest key challenge = crypto.hmac digest key (challenge ++
        le 4 nvmetcp.auth.seqnum ++ le 2 nvmetcp.auth.transaction ++ [0] ++ ascii "HostHost" ++ name.val ++ [0] ++
        boot.subsystemNqn.val)
  identity : useTls boot = true -> Exists fun psk : Bytes =>
    sessionTlsParams boot = some (psk, pskIdentity name.val boot.subsystemNqn.val)
  table : forall (install : Installer) (sessions : List BootSession) (table : Bytes) (index : Nat)
    (inside : index < sessions.length), nbctInstall install sessions = some table -> sessions[index] = boot ->
      dd table (40 + index * 1152 + Field.hostnqn.scriptOffset) Field.hostnqn.scriptLength = zeroPadded 256 name.val

/-! ## The places one by one -/

theorem textField_eq_zeroPadded {size : Nat} {text : Bytes} (short : text.length < size) :
    textField size text = zeroPadded size text := by
  rw [textField, List.take_of_length_le (by omega), zeroPadded]

theorem hostNqn_of_connectData {hostId : Bytes} (length : hostId.length = 16) (cntlid : Nat)
    (subsystemNqn hostNqn : Bytes) :
    ((connectData hostId cntlid subsystemNqn hostNqn).drop 512).take 256 = textField 256 hostNqn := by
  have front : (hostId ++ le 2 cntlid ++ zeros 238 ++ textField 256 subsystemNqn).length = 512 := by
    simp only [List.length_append, length, length_le, zeros, List.length_replicate, length_textField]
  rw [connectData, List.append_assoc, List.drop_left' front, List.take_left' (length_textField 256 hostNqn)]

theorem Reached.identity {T : Type} {env : Env T} {crypto : AuthCrypto} {boot : BootSession} {nvmetcp : Session T}
    (reached : Reached env crypto boot nvmetcp) :
    nvmetcp.hostNqn = boot.hostNqn.val ∧ nvmetcp.subsystemNqn = boot.subsystemNqn.val ∧ nvmetcp.hostId.length = 16 := by
  rcases reached with ⟨state, hostId, start, events, length, created, rfl⟩
  rcases Nvmetcp.openSession_eq created with ⟨socket, rfl⟩
  have same := Nvmetcp.identity_run env crypto (Nvmetcp.opened_sound socket boot.subsystemNqn.val boot.hostNqn.val
    hostId (boot.secret.map Subtype.val)) events
  refine ⟨same.hostNqn, same.subsystemNqn, ?_⟩
  rw [same.hostId]
  exact length

/-- A name that fits is the one in all five places. -/
theorem carriesHostNqn_of_short {boot : BootSession} (accepted : useTls boot = true -> sessionTlsParams boot ≠ none)
    (short : boot.hostNqn.val.length < 256) : CarriesHostNqn boot boot.hostNqn where
  connect := by
    intro T env crypto nvmetcp reached queue qid
    rcases reached.identity with ⟨host, _, length⟩
    refine ⟨_, rfl, ?_⟩
    rw [hostNqn_of_connectData length, host, textField_eq_zeroPadded short]
  transform := by
    intro T env crypto nvmetcp reached digest key
    rw [transformKey, reached.identity.1]
  response := by
    intro T env crypto nvmetcp reached digest key challenge
    rw [authResponse, reached.identity.1, reached.identity.2.1]
  identity := by
    intro tls
    have acceptable : Acceptable (boot.value .tlsPsk) boot.hostNqn.val boot.subsystemNqn.val := by
      by_contra other
      exact accepted tls (tlsParams_refused other)
    exact ⟨_, tlsParams_accepted acceptable⟩
  table := by
    intro install sessions table index inside installed own
    rw [dd_nbctInstall install installed inside .hostnqn, own]
    exact textField_eq_zeroPadded short

/-! ## Names that do not fit -/

theorem deleteNul_zeroPadded (size : Nat) (name : CString) : deleteNul (zeroPadded size name.val) = name.val := by
  have kept : name.val.filter (fun byte => byte ≠ 0) = name.val := by
    apply List.filter_eq_self.mpr
    intro byte member
    apply decide_eq_true
    rintro rfl
    exact name.property member
  rw [deleteNul, zeroPadded, List.filter_append, kept, zeros, List.filter_replicate]
  exact List.append_nil _

/-- The name in the table is the start of the host NQN that fits. -/
theorem CarriesHostNqn.name_eq {boot : BootSession} {name : CString} (carries : CarriesHostNqn boot name) :
    name.val = boot.hostNqn.val.take 255 := by
  rcases nbctInstall_cons plainInstaller boot [] with ⟨table, installed⟩
  have padded := carries.table plainInstaller [boot] table 0 Nat.zero_lt_one installed rfl
  rw [dd_nbctInstall plainInstaller installed Nat.zero_lt_one .hostnqn] at padded
  have text := congrArg deleteNul padded
  rw [deleteNul_zeroPadded, fieldBytes, deleteNul_textField _ (value_terminated _ .hostnqn)] at text
  exact text.symm

/-- An authentication code that tells one message from all others. -/
def tellingCrypto (message : Bytes) : AuthCrypto :=
  { Nvmetcp.sampleCrypto with
    hmac := fun digest _ text => List.replicate digest.size (if text = message then 1 else 0)
    hmac_length := fun _ _ _ => List.length_replicate }

/-- The transformed key depends on the whole host NQN. -/
theorem CarriesHostNqn.whole {boot : BootSession} {name : CString} (carries : CarriesHostNqn boot name) :
    name.val = boot.hostNqn.val := by
  have reached : forall crypto, Reached Nvmetcp.windowEnv crypto boot
      (Nvmetcp.opened 0 boot.subsystemNqn.val boot.hostNqn.val (zeros 16) (boot.secret.map Subtype.val)) :=
    fun _ => ⟨0, zeros 16, _, [], rfl, rfl, rfl⟩
  have transformed := carries.transform Nat Nvmetcp.windowEnv
    (tellingCrypto (boot.hostNqn.val ++ ascii "NVMe-over-Fabrics")) _ (reached _) .sha256 []
  by_contra different
  have other : name.val ++ ascii "NVMe-over-Fabrics" ≠ boot.hostNqn.val ++ ascii "NVMe-over-Fabrics" :=
    fun same => different (List.append_cancel_right same)
  have told : forall text message : Bytes, (tellingCrypto message).hmac .sha256 [] text =
      List.replicate 32 (if text = message then 1 else 0) := fun _ _ => rfl
  have own : (1 : UInt8) = 0 := by
    rw [transformKey, told, told, if_neg other] at transformed
    have first := congrArg List.head? transformed
    rw [if_pos (by rfl)] at first
    exact Option.some.inj first
  cases own

theorem length_setHostNqn {memory : Nat -> Bool} {uuid : FetchedUuid} {hostNqn : CString}
    (named : setHostNqn memory none uuid = some hostNqn) : hostNqn.val.length < 256 := by
  unfold setHostNqn at named
  dsimp only at named
  split at named
  · cases named
  · cases named
    have bounded : forall text : Bytes, (CString.ofBytes (text.take 52)).val.length ≤ 52 := by
      intro text
      have shorter := (@List.takeWhile_sublist _ (text.take 52) (fun byte => decide (byte ≠ 0))).length_le
      have cut := List.length_take_le 52 text
      exact Nat.le_trans shorter cut
    exact Nat.lt_of_le_of_lt (bounded _) (by decide)

/-- For every session that is opened, the five places carry one name if and
only if the setting, where there is one, is shorter than the field of the
Connect data. -/
theorem host_identity_agreed_iff {memory : Nat -> Bool} {uri : Uri} {setting : Option CString}
    {uuid : FetchedUuid} {boot : BootSession} (opened : nvmetcpOpen memory uri setting uuid = .ok boot) :
    (Exists fun name : CString => CarriesHostNqn boot name) ↔
      forall text : CString, setting = some text -> text.val.length < 256 := by
  rcases nvmetcpOpen_ok opened with ⟨named, accepted⟩
  constructor
  · rintro ⟨name, carries⟩ text rfl
    cases named
    have cut := congrArg List.length (carries.whole.symm.trans carries.name_eq)
    rw [List.length_take] at cut
    omega
  · intro short
    refine ⟨boot.hostNqn, carriesHostNqn_of_short accepted ?_⟩
    cases setting with
    | none => exact length_setHostNqn named
    | some text =>
        cases named
        exact short _ rfl

/-! ## Two settings -/

/-- There is no system UUID. -/
def noUuid : FetchedUuid :=
  ⟨-2, ⟨[], by decide⟩⟩

def sampleUri : Uri where
  host := some sampleSession.targetHost
  port := none
  path := some ⟨ascii "/nqn.sub", by decide⟩
  equery := some ⟨ascii "tls_psk=0a0b&tls_trsvcid=4420", by decide⟩

/-- A short name is the same everywhere. -/
theorem sample_host_identity : Exists fun boot : BootSession =>
    nvmetcpOpen (fun _ => true) sampleUri (some ⟨ascii "nqn.host", by decide⟩) noUuid = .ok boot ∧
      useTls boot = true ∧ Exists fun name : CString => CarriesHostNqn boot name := by
  have opened : nvmetcpOpen (fun _ => true) sampleUri (some ⟨ascii "nqn.host", by decide⟩) noUuid = .ok _ := rfl
  refine ⟨_, opened, by decide, (host_identity_agreed_iff opened).mpr ?_⟩
  intro text same
  cases same
  decide

/-- A name of 256 characters is accepted, and is not the same everywhere. -/
theorem long_host_nqn_not_agreed :
    ¬ forall (uri : Uri) (setting : Option CString) (boot : BootSession),
      nvmetcpOpen (fun _ => true) uri setting noUuid = .ok boot ->
        Exists fun name : CString => CarriesHostNqn boot name := by
  intro claim
  have name : Exists fun text : CString => text.val.length = 256 :=
    ⟨⟨List.replicate 256 97, fun zero => absurd (List.eq_of_mem_replicate zero) (by decide)⟩,
      List.length_replicate⟩
  rcases name with ⟨text, length⟩
  have accepted : Exists fun boot : BootSession =>
      nvmetcpOpen (fun _ => true) { sampleUri with equery := none } (some text) noUuid = .ok boot := ⟨_, rfl⟩
  rcases accepted with ⟨boot, opened⟩
  rcases claim _ _ _ opened with ⟨name, carries⟩
  have cut := congrArg List.length (carries.whole.symm.trans carries.name_eq)
  have named : text = boot.hostNqn := Option.some.inj (nvmetcpOpen_ok opened).1
  rw [List.length_take, ← named, length] at cut
  cases cut

end Nbct
end Kurrent
