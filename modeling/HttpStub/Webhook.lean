import HttpStub.Delay

/-!
# Webhooks

A request that the server makes once it has served a stub, by the extension of the webhook's name.
Texts that are empty count as not given.
-/

namespace HttpStub

/-- A request to be made after serving. Begun by `Webhook.standard`. -/
structure Webhook where
  /-- The extension that makes the request. -/
  name : String
  /-- The method, if it is not empty. -/
  method : String
  /-- The URL, if it is not empty. -/
  url : String
  /-- The body, if it is not empty. -/
  body : String
  headers : Dict String
  /-- How long the request is held back. -/
  delay : Option Delay
deriving DecidableEq

namespace Webhook

/-- A webhook of the standard extension, with nothing given. -/
def standard : Webhook := ⟨"webhook", "", "", "", .empty, none⟩

/-- One thing that can be given, in the place of what was given before. -/
inductive Step where
  | name (name : String)
  | method (method : String)
  | url (url : String)
  | body (body : String)
  | header (name value : String)
  | delay (delay : Delay)
deriving DecidableEq

/-- Gives one thing. -/
def apply (w : Webhook) : Step → Webhook
  | .name name => { w with name := name }
  | .method method => { w with method := method }
  | .url url => { w with url := url }
  | .body body => { w with body := body }
  | .header name value => { w with headers := w.headers.insert name value }
  | .delay delay => { w with delay := some delay }

/-- The member of a text, left out when the text is empty. -/
def textMember (key text : String) : List (String × Json) :=
  if text = "" then [] else [(key, .string text)]

/-- A webhook as a document: all but its name stands among the parameters. -/
def toJson (w : Webhook) : Json :=
  .object
    [("name", .string w.name),
      ("parameters", .object
        (textMember "method" w.method ++ textMember "url" w.url ++ textMember "body" w.body ++
          Json.dictMember "headers" .string w.headers ++
          Json.member? "delay" Delay.toJson w.delay))]

end Webhook

end HttpStub
