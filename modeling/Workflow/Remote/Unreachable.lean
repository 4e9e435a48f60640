import Workflow.Remote.Exchange

/-!
# A network without servers

What a client finds when no server can be reached. An address that is not of the web is refused
before anything is sent, and so is one that is too long or whose host has a character that messages
may not name. The user and the password are sent apart from the address and are not told.
-/

namespace Workflow

namespace Url

/-- A text of an address without its encodings, if it is text then. -/
def decoded? (text : List Char) : Option String :=
  String.fromUTF8? ⟨(Percent.decode text).toArray⟩

/-- An address without its user and password. They stay if the user is no text, or if there is no
user and the password is no text. -/
def withoutUser (url : Url) : Url :=
  match url.authority with
  | some authority =>
    match decoded? authority.username, decoded? authority.password with
    | some username, password? =>
      if username ≠ "" ∨ password?.isSome then
        { url with authority := some { authority with username := [], password := [] } }
      else url
    | none, _ => url
  | none => url

/-- Whether a message can be sent to an address. -/
def isSendable (url : Url) : Bool :=
  let host := (url.authority.map fun authority => authority.host.text).getD []
  ["http", "https"].contains (String.ofList url.scheme) &&
    !host.any "\"`\x7b\x7d".toList.contains && url.text.length < 0xFFFF

end Url

/-- The network in which no message arrives. -/
def Network.unreachable : Network := fun message =>
  let url := message.url.withoutUser
  let reason := if url.isSendable then "error sending request" else "builder error"
  .error (reason ++ " for url (" ++ url.text ++ ")")

end Workflow
