import WalletResponder.Url.Form

/-!
# Parameters in a redirect URI

A URI is a text whose fragment starts at the first `#` and whose query starts at the first `?`
before that. `Redirect.appendQuery` adds parameters at the end of the query and leaves the rest of
the URI alone; `Redirect.replaceFragment` puts parameters in place of the fragment.
`Redirect.writeQuery` and `Redirect.writeFragment` fail where a parameter is too long for the
library.
-/

namespace WalletResponder.Redirect

/-- The URI up to its fragment. -/
def base (uri : Bytes) : Bytes := uri.upTo 0x23

/-- The fragment with its `#`, or nothing. -/
def fragment (uri : Bytes) : Bytes := uri.dropWhile (· != 0x23)

/-- The query: what lies between the first `?` of the base and its end. -/
def query (uri : Bytes) : Bytes := ((base uri).after? 0x3f).getD []

/-- What has to stand between a base and further parameters. -/
def separator (base : Bytes) : Bytes :=
  match base.after? 0x3f with
  | none => [0x3f]
  | some [] => []
  | some _ => if base.getLast? == some 0x26 then [] else [0x26]

/-- Adds parameters to the query. -/
def appendQuery (uri : Bytes) (params : FormParameters) : Bytes :=
  if params.isEmpty then uri
  else base uri ++ separator (base uri) ++ params.encode ++ fragment uri

/-- Makes parameters the fragment. -/
def replaceFragment (uri : Bytes) (params : FormParameters) : Bytes :=
  base uri ++ 0x23 :: params.encode

/-- Adds parameters to the query, unless one of them is too long. -/
def writeQuery (uri : Bytes) (params : FormParameters) : Except Percent.Fault Bytes :=
  if params.isEmpty then .ok uri
  else params.write.map fun text => base uri ++ separator (base uri) ++ text ++ fragment uri

/-- Makes parameters the fragment, unless one of them is too long. -/
def writeFragment (uri : Bytes) (params : FormParameters) : Except Percent.Fault Bytes :=
  params.write.map fun text => base uri ++ 0x23 :: text

end WalletResponder.Redirect
