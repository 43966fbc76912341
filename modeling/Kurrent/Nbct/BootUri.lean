import Kurrent.Nbct.KeyHandoff

namespace Kurrent
namespace Nbct

open Library

/-!
# Opening a session from a boot URI

`nvmetcp_open()` reads the target, the subsystem, the secret and the TLS
parameters from the URI, takes the host NQN from a setting or makes one up,
and opens the admin queue's socket.  A session that it refuses leaves no
entry in the boot credentials table.

Allocations are numbered in the order in which the source makes them, and may
fail one by one.  The text of the system UUID and the status with which it is
fetched are the platform's.
-/

/-- Why a session is refused. -/
inductive Refusal
  | noRootPath
  | noMemory
  | noTarget
  | noSubsystemNqn
  | invalidKey
  deriving DecidableEq

/-- The fields of `struct uri` that are read, and the port as
`uri_port()` reads it. -/
structure Uri where
  host : Option CString
  port : Option Nat
  path : Option CString
  equery : Option CString

/-- A string up to its terminator. -/
def CString.ofBytes (text : Bytes) : CString :=
  ⟨text.takeWhile fun byte => byte ≠ 0, fun zero => absurd (List.mem_takeWhile_imp zero) (by decide)⟩

/-! ## Query parameters -/

/-- `strstr()`: what stands before the first occurrence, and what after it. -/
def strstr (needle : Bytes) : Bytes -> Option (Bytes × Bytes)
  | [] => if needle = [] then some ([], []) else none
  | byte :: rest =>
      if needle.isPrefixOf (byte :: rest) then some ([], (byte :: rest).drop needle.length)
      else (strstr needle rest).map fun found => (byte :: found.1, found.2)

/-- The loop of `nvmetcp_parse_qparam()`, for a number of passes: what follows
the first occurrence of the name at the start of the query or after an
ampersand, if there is one.  `last` is the character before the text that
remains to be searched.  There is no result while the loop goes on. -/
def findParameter (name : Bytes) : Nat -> Option UInt8 -> Bytes -> Option (Option Bytes)
  | 0, _, _ => none
  | passes + 1, last, query =>
      match strstr name query with
      | none => some none
      | some (before, after) =>
          let previous := if before = [] then last else before.getLast?
          if previous = none ∨ previous = some 38 then some (some after)
          else findParameter name passes name.getLast? after

/-- `nvmetcp_parse_qparam()`, where the loop ends within one pass more than
the query is long, as it does for every name that is not empty.  An absent or
empty parameter is no error. -/
def parseQparam (memory : Bool) (uri : Uri) (name : Bytes) : Except Refusal (Option CString) :=
  match uri.equery with
  | none => .ok none
  | some query =>
      match (findParameter name (query.val.length + 1) none query.val).join with
      | none => .ok none
      | some after =>
          let value := after.takeWhile fun byte => byte ≠ 38
          if value = [] then .ok none
          else if memory then .ok (some (CString.ofBytes value))
          else .error .noMemory

/-! ## The root path -/

/-- What `nvmetcp_parse_root_path()` fills in. -/
structure RootPath where
  targetHost : CString
  targetPort : UInt16
  subsystemNqn : CString
  secret : Option CString
  tlsPsk : Option CString
  tlsTrsvcid : Option CString

/-- `nvmetcp_parse_secret()` and `nvmetcp_parse_tls()`. -/
def parseParameters (memory : Nat -> Bool) (uri : Uri) (targetHost : CString) (subsystemNqn : CString) :
    Except Refusal RootPath :=
  match parseQparam (memory 3) uri (ascii "secret="), parseQparam (memory 4) uri (ascii "tls_psk="),
      parseQparam (memory 5) uri (ascii "tls_trsvcid=") with
  | .ok secret, .ok tlsPsk, .ok tlsTrsvcid =>
      .ok ⟨targetHost, UInt16.ofNat (uri.port.getD 4420), subsystemNqn, secret, tlsPsk, tlsTrsvcid⟩
  | .error refusal, _, _ => .error refusal
  | _, .error refusal, _ => .error refusal
  | _, _, .error refusal => .error refusal

/-- `nvmetcp_parse_root_path()` -/
def parseRootPath (memory : Nat -> Bool) (uri : Uri) : Except Refusal RootPath :=
  match uri.host with
  | none => .error .noTarget
  | some host =>
      if memory 1 = false then .error .noMemory
      else
        match uri.path.map Subtype.val with
        | some (47 :: nqn) =>
            if nqn.length = 0 ∨ nqn.length ≥ 256 then .error .noSubsystemNqn
            else if memory 2 = false then .error .noMemory
            else parseParameters memory uri host (CString.ofBytes nqn)
        | _ => .error .noSubsystemNqn

/-! ## The host NQN -/

/-- `NVMETCP_DEFAULT_HOST_NQN` -/
def defaultHostNqn : Bytes :=
  ascii "nqn.2014-08.org.ipxe:"

/-- What `fetch_uuid_setting()` returns, and what `uuid_ntoa()` makes of the
UUID that it has fetched. -/
structure FetchedUuid where
  status : Int
  text : CString

/-- `nvmetcp_set_host_nqn()`: the setting, or the default followed by the
text of the system UUID, if its status is zero.  `snprintf()` keeps one
character less than the memory it is given. -/
def setHostNqn (memory : Nat -> Bool) (setting : Option CString) (uuid : FetchedUuid) : Option CString :=
  match setting with
  | some nqn => some nqn
  | none =>
      if memory 6 = false then none
      else
        let suffix := if uuid.status ≠ 0 then ascii "ipxe" else uuid.text.val
        some (CString.ofBytes ((defaultHostNqn ++ suffix).take (defaultHostNqn.length + 32 - 1)))

/-! ## TLS -/

/-- The loop of `nvmetcp_use_tls()`: the port, unless a character is no digit
or the number leaves the range. -/
def trsvcidPort : Nat -> Bytes -> Option Nat
  | port, [] => some port
  | port, character :: rest =>
      let code := character.toNat
      if code < 48 ∨ code > 57 then none
      else if port * 10 + (code - 48) > 0xffff then none
      else trsvcidPort (port * 10 + (code - 48)) rest

/-- `nvmetcp_use_tls()` -/
def useTls (session : BootSession) : Bool :=
  match session.tlsPsk, session.tlsTrsvcid with
  | some _, some trsvcid => trsvcid.val ≠ [] && trsvcidPort 0 trsvcid.val = some session.targetPort.toNat
  | _, _ => false

/-- The parameters of the connection, as `nvmetcp_tls_params()` makes them of
a session with a key. -/
def sessionTlsParams (session : BootSession) : Option (Bytes × Bytes) :=
  tlsParams (session.value .tlsPsk) session.hostNqn.val session.subsystemNqn.val

/-! ## Opening -/

/-- `nvmetcp_open()`, up to the opening of the socket itself. -/
def nvmetcpOpen (memory : Nat -> Bool) (uri : Uri) (setting : Option CString) (uuid : FetchedUuid) :
    Except Refusal BootSession :=
  if uri.path = none then .error .noRootPath
  else if memory 0 = false then .error .noMemory
  else
    match parseRootPath memory uri with
    | .error refusal => .error refusal
    | .ok root =>
        match setHostNqn memory setting uuid with
        | none => .error .noMemory
        | some hostNqn =>
            let session : BootSession :=
              ⟨root.targetHost, root.targetPort, root.subsystemNqn, hostNqn, root.secret, root.tlsTrsvcid, root.tlsPsk⟩
            if useTls session = true ∧ sessionTlsParams session = none then .error .invalidKey else .ok session

/-- A session that is opened has the host NQN of the setting or the default,
and parameters for TLS if it uses it. -/
theorem nvmetcpOpen_ok {memory : Nat -> Bool} {uri : Uri} {setting : Option CString} {uuid : FetchedUuid}
    {session : BootSession} (opened : nvmetcpOpen memory uri setting uuid = .ok session) :
    setHostNqn memory setting uuid = some session.hostNqn ∧
      (useTls session = true -> sessionTlsParams session ≠ none) := by
  unfold nvmetcpOpen at opened
  split at opened
  · cases opened
  · split at opened
    · cases opened
    · split at opened
      · cases opened
      · split at opened
        · cases opened
        · rename_i hostNqn named
          dsimp only at opened
          split at opened
          · cases opened
          · rename_i accepted
            cases opened
            exact ⟨named, fun tls refused => accepted ⟨tls, refused⟩⟩

end Nbct
end Kurrent
