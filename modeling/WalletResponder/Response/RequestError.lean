import WalletResponder.Failure

/-!
# Errors in requests

Why a request cannot be answered, as the verifier is told: each kind of error has a name and a code,
and the description is the name with whatever detail there is.
-/

namespace WalletResponder

/-- The kinds of errors in a request. -/
inductive RequestErrorKind where
  | missingNonce
  | missingClientId
  | invalidClientId
  | unsupportedClientIdScheme
  | unsupportedResponseType
  | unsupportedResponseMode
  | unsupportedClientMetaData
  | invalidPresentationDefinition
  | invalidPresentationDefinitionUri
  | invalidPresentationDefinitionReference
  | vpFormatsNotSupported
  | invalidRedirectUri
  deriving DecidableEq, Repr

namespace RequestErrorKind

/-- The name of a kind. -/
def name : RequestErrorKind → Bytes
  | missingNonce => utf8 "MissingNonce"
  | missingClientId => utf8 "MissingClientId"
  | invalidClientId => utf8 "InvalidClientId"
  | unsupportedClientIdScheme => utf8 "UnsupportedClientIdScheme"
  | unsupportedResponseType => utf8 "UnsupportedResponseType"
  | unsupportedResponseMode => utf8 "UnsupportedResponseMode"
  | unsupportedClientMetaData => utf8 "UnsupportedClientMetaData"
  | invalidPresentationDefinition => utf8 "InvalidPresentationDefinition"
  | invalidPresentationDefinitionUri => utf8 "InvalidPresentationDefinitionUri"
  | invalidPresentationDefinitionReference => utf8 "InvalidPresentationDefinitionReference"
  | vpFormatsNotSupported => utf8 "VpFormatsNotSupported"
  | invalidRedirectUri => utf8 "InvalidRedirectUri"

/-- The code of a kind. -/
def code : RequestErrorKind → Bytes
  | missingClientId | invalidClientId | unsupportedClientIdScheme => utf8 "invalid_client"
  | vpFormatsNotSupported => utf8 "vp_formats_not_supported"
  | invalidPresentationDefinitionUri => utf8 "invalid_presentation_definition_uri"
  | invalidPresentationDefinitionReference => utf8 "invalid_presentation_definition_reference"
  | missingNonce | unsupportedResponseType | unsupportedResponseMode | unsupportedClientMetaData
  | invalidPresentationDefinition | invalidRedirectUri => utf8 "invalid_request"

end RequestErrorKind

/-- An error in a request. -/
structure RequestError where
  kind : RequestErrorKind
  detail : Bytes
  deriving DecidableEq, Repr

namespace RequestError

/-- The code of an error. -/
def code (e : RequestError) : Bytes := e.kind.code

/-- The description of an error. -/
def description (e : RequestError) : Bytes :=
  if e.detail.isEmpty then e.kind.name else e.kind.name ++ utf8 ": " ++ e.detail

end RequestError

/-- The error that a refused protection is for the verifier. -/
def JarmRefusal.error (r : JarmRefusal) : RequestError := ⟨.unsupportedClientMetaData, r.detail⟩

end WalletResponder
