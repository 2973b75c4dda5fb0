import Forge.Source.Cloud

/-!
# ECR authorization tokens

An ECR authorization token is `base64.StdEncoding` of `username:password`.
`decodeAuth` decodes it and splits it at the first colon, so it inverts the
encoding for every username without a colon, whatever the password holds,
colons and bytes outside ASCII included; it refuses a blank token, one that is
not base64, and one that decodes without a colon. The decoding half rests on
`decodeString_encodeToString`, the round trip of the standard encoding over
every byte string.
-/

namespace Forge.Guarantees.EcrToken
open Forge.Lib.Base64 Forge.Source.Cloud

theorem decodeAuth_inverts_encoding :
    (∀ username password : Bytes, (58 : UInt8) ∉ username →
        decodeAuth (encodeToString (username ++ 58 :: password)) = .ok (username, password)) ∧
      ∀ auth : Bytes, auth = [] ∨ (∃ offset, decodeString auth = .error offset) ∨
          (∃ decoded, decodeString auth = .ok decoded ∧ (58 : UInt8) ∉ decoded) →
        ∃ err, decodeAuth auth = .error err :=
  ⟨fun _ password noColon => decodeAuth_encodeToString noColon password,
    fun _ refused => decodeAuth_eq_error refused⟩

/-- The token of user `AWS` with a password holding a colon and a non-ASCII
letter, and the encoding of `AWS` alone. -/
theorem aws_token_decodes :
    (58 : UInt8) ∉ goBytes "AWS" ∧
      decodeAuth (encodeToString (goBytes "AWS" ++ 58 :: goBytes "pa:sß")) = .ok (goBytes "AWS", goBytes "pa:sß") ∧
      ∃ err, decodeAuth (goBytes "QVdT") = .error err :=
  ⟨by decide, decodeAuth_inverts_encoding.1 _ _ (by decide),
    decodeAuth_inverts_encoding.2 _ (.inr (.inr ⟨goBytes "AWS", by decide, by decide⟩))⟩

end Forge.Guarantees.EcrToken
