import WalletResponder.Bytes

/-!
# Response modes

A request says how it wants to be answered: by which of three ways the answer travels, whether it is
protected, and to which URI it goes. The name of a mode is the way, followed by `.jwt` for a
protected answer.
-/

namespace WalletResponder

/-- The ways in which an answer travels. -/
inductive Channel where
  /-- Posted to the verifier. -/
  | directPost
  /-- In the query of a redirect. -/
  | query
  /-- In the fragment of a redirect. -/
  | fragment
  deriving DecidableEq, Repr

/-- The name of a channel. -/
def Channel.name : Channel → Bytes
  | directPost => utf8 "direct_post"
  | query => utf8 "query"
  | fragment => utf8 "fragment"

/-- How a request wants to be answered. -/
structure ResponseMode where
  channel : Channel
  /-- Whether the answer is protected. -/
  isProtected : Bool
  uri : Bytes
  deriving DecidableEq, Repr

namespace ResponseMode

/-- The name of a channel, plain or protected. -/
def nameOf (channel : Channel) (isProtected : Bool) : Bytes :=
  if isProtected then channel.name ++ utf8 ".jwt" else channel.name

/-- The name of a mode. -/
def name (m : ResponseMode) : Bytes := nameOf m.channel m.isProtected

/-- All channels, plain and protected. -/
def kinds : List (Channel × Bool) :=
  [(.directPost, false), (.directPost, true), (.query, false), (.query, true), (.fragment, false),
    (.fragment, true)]

/-- The channel and the protection that a name stands for. -/
def ofName? (name : Bytes) : Option (Channel × Bool) :=
  kinds.find? fun (channel, isProtected) => nameOf channel isProtected == name

end ResponseMode
end WalletResponder
