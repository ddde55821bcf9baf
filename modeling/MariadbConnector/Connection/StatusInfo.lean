import MariadbConnector.Codecs.Types
import MariadbConnector.Lib.CString
import MariadbConnector.Lib.Utf8

/-! `MrdbConnection_process_status_info`: the report handed to `status_callback`, and the check
of `character_set_client`, whose `strncmp` is bounded by the length of the server's string. -/

namespace MariadbConnector

open CString Utf8

/-- `enum_session_state_type`, with the strings after it that the callback reads. -/
inductive SessionTrack
  | systemVariables (key value : List UInt8)
  | schema (name : List UInt8)
  | stateChange (value : List UInt8)
  | gtids
  | transactionCharacteristics
  | transactionState
  deriving DecidableEq, Repr

/-- `enum_mariadb_status_info`, with its arguments. -/
inductive StatusInfo
  | statusType (serverStatus : UInt32)
  | sessionTrackType (track : SessionTrack)
  deriving DecidableEq, Repr

/-- The value of a dict handed to `status_callback`. -/
inductive CallbackValue
  | int (n : Nat)
  | str (s : List UInt8)
  deriving DecidableEq, Repr

/-- The error a change of `character_set_client` to `charset` raises. `%s` prints the copy in
`charset[128]` up to its first `NUL`; character set names are ASCII. -/
def unsupportedCharset (charset : List UInt8) : PyError :=
  ⟨.programmingError, "Character set '" ++ latin1 (cString charset) ++ "' is not supported"⟩

/-- The test of a tracked system variable, `!strncmp(key->str, "character_set_client",
key->length) && strncmp(val->str, "utf8mb4", val->length)`. -/
def rejectsCharset (key value : List UInt8) : Bool :=
  decide (strncmp key (Utf8.encode "character_set_client") key.length = 0) &&
    decide (strncmp value (Utf8.encode "utf8mb4") value.length ≠ 0)

/-- `MrdbConnection_process_status_info(data, type, ...)`: the one-entry dicts it calls
`status_callback` with, in order, none when the connection has no callback, and the exception it
sets. -/
def processStatusInfo (hasCallback : Bool) :
    StatusInfo → List (List UInt8 × CallbackValue) × Option PyError
  | .statusType serverStatus =>
    (if hasCallback then [(Utf8.encode "server_status", .int serverStatus.toNat)] else [], none)
  | .sessionTrackType (.schema name) =>
    (if hasCallback then [(Utf8.encode "schema", .str name)] else [], none)
  | .sessionTrackType (.stateChange value) =>
    (if hasCallback then [(Utf8.encode "state_change", .str value)] else [], none)
  | .sessionTrackType (.systemVariables key value) =>
    -- the exception is set before the callback, which is called all the same
    (if hasCallback then [(key, .str value)] else [],
      if rejectsCharset key value then some (unsupportedCharset value) else none)
  | .sessionTrackType _ => ([], none)

theorem rejectsCharset_iff {key value : List UInt8} (hkey : 0 ∉ key) (hvalue : 0 ∉ value) :
    rejectsCharset key value = true ↔
      key <+: Utf8.encode "character_set_client" ∧ ¬ value <+: Utf8.encode "utf8mb4" := by
  rw [rejectsCharset, Bool.and_eq_true, decide_eq_true_iff, decide_eq_true_iff,
    strncmp_length_eq_zero_iff hkey, Ne, strncmp_length_eq_zero_iff hvalue]

/-- **The character set check is a prefix test.** For a tracked system variable whose name and
value hold no `NUL` byte, `MrdbConnection_process_status_info` raises `Character set ... is not
supported` exactly when the name starts `character_set_client` and the value does not start
`utf8mb4`: the values `utf8`, `utf8m`, `utf8mb`, every other proper prefix of `utf8mb4` and the
empty value pass, and a variable named by a proper prefix of `character_set_client`, such as
`character_set`, is checked as if it were that one. -/
theorem charset_check_is_prefix_test (hasCallback : Bool) {key value : List UInt8}
    (hkey : 0 ∉ key) (hvalue : 0 ∉ value) :
    (processStatusInfo hasCallback (.sessionTrackType (.systemVariables key value))).2 =
      if key <+: Utf8.encode "character_set_client" ∧ ¬ value <+: Utf8.encode "utf8mb4" then
        some (unsupportedCharset value)
      else none := by
  simp only [processStatusInfo]
  by_cases h : key <+: Utf8.encode "character_set_client" ∧ ¬ value <+: Utf8.encode "utf8mb4"
  · rw [if_pos ((rejectsCharset_iff hkey hvalue).mpr h), if_pos h]
  · have hr : rejectsCharset key value ≠ true := fun ht =>
      h ((rejectsCharset_iff hkey hvalue).mp ht)
    rw [if_neg hr, if_neg h]

/-- `SET character_set_client = utf8` on a server that reports it as `utf8`. -/
theorem charset_check_accepts_utf8 :
    0 ∉ Utf8.encode "character_set_client" ∧ 0 ∉ Utf8.encode "utf8" ∧
      (processStatusInfo true (.sessionTrackType
          (.systemVariables (Utf8.encode "character_set_client") (Utf8.encode "utf8")))).2 =
        if Utf8.encode "character_set_client" <+: Utf8.encode "character_set_client" ∧
            ¬ Utf8.encode "utf8" <+: Utf8.encode "utf8mb4" then
          some (unsupportedCharset (Utf8.encode "utf8"))
        else none :=
  ⟨by decide, by decide, charset_check_is_prefix_test true (by decide) (by decide)⟩

end MariadbConnector
