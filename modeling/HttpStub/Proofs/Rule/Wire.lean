import HttpStub.Admin.Exchange
import HttpStub.Proofs.Json.Data
import HttpStub.Proofs.Json.Documents
import HttpStub.Proofs.Request.Wire
import HttpStub.Proofs.Response.Wire
import HttpStub.Rule.Basic

/-!
# The text of a rule and the posted document

A rule is written in two ways: as a text in the order of its parts, and as a value with members by
name, which is what a client posts. A rule without floating point holds no number that a 64-bit word
cannot hold, so neither way fails, and the text is read back as the value that is posted.
-/

namespace HttpStub

/-- The delay of the webhook is not in floating point. -/
def Webhook.isFloatFree (w : Webhook) : Bool :=
  w.delay.all Delay.isFloatFree

/-- Neither the response nor a webhook holds a floating-point number, as `StubResponse.isFloatFree`
and `Webhook.isFloatFree` have it. -/
def StubRule.isFloatFree (r : StubRule) : Bool :=
  r.response.isFloatFree && r.postServeActions.all Webhook.isFloatFree

/-! ## Numbers of a rule -/

/-- A signed word is written as an integer of 64 bits. -/
private theorem isWhole_int64 (n : Int64) : (Json.int n.toInt).isWhole = true := by
  -- The bounds of a signed word are those of the integers that `Data.fitsWord` admits, from below.
  have hle := n.le_toInt
  have hlt := n.toInt_lt
  simp only [Json.int, Json.isWhole, Data.fitsWord, Bool.and_eq_true, decide_eq_true_eq]
  omega

namespace Webhook

/-- A `textMember` holds no number. -/
private theorem membersWhole_textMember (key text : String) :
    Json.membersWhole (textMember key text) = true := by
  unfold textMember
  split <;> rfl

/-- `Webhook.toJson` holds no number but those of its delay. -/
theorem isWhole_toJson {w : Webhook} (h : w.isFloatFree = true) : w.toJson.isWhole = true := by
  -- All other members are texts, and the headers a dictionary of them.
  have hheaders : Json.membersWhole (Json.dictMember "headers" .string w.headers) = true :=
    Json.membersWhole_dictMember "headers" fun _ _ => rfl
  simp [toJson, membersWhole_textMember, hheaders, Delay.membersWhole_member? "delay" h]

end Webhook

/-! ## Posting -/

namespace StubRule

/-- A rule that `isFloatFree` is whole: every number in its document is an integer of 64 bits. -/
theorem isWhole_toJson {r : StubRule} (h : r.isFloatFree = true) : r.toJson.isWhole = true := by
  obtain ⟨hresponse, hwebhooks⟩ := Bool.and_eq_true_iff.1 h
  -- The actions are documents of their own, each without a floating-point number.
  have hactions : Json.membersWhole
      (Json.listMember "postServeActions" Webhook.toJson r.postServeActions) = true :=
    Json.membersWhole_listMember _ fun w hw =>
      Webhook.isWhole_toJson (List.all_eq_true.1 hwebhooks w hw)
  simp [toJson, responseJson, hactions, RequestPattern.isWhole_toJson, isWhole_int64,
    Json.isWhole_uint64, StubResponse.membersWhole_members hresponse, Json.membersWhole_member?,
    Json.membersWhole_member?_string]

end StubRule

end HttpStub
