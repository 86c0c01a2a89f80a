import ConversionDesk.Proofs.Json.MemberOrder
import ConversionDesk.Proofs.ReplyForms

/-!
# Replies with their members rearranged

The body of a reply is an object in which the server may write the fields in any order, among
any other members. This file shows that it does not matter which order it chooses and which
other members it adds: bodies that differ in nothing else are read alike, show the same result
and fail with the same message, under every status. It holds of bodies that cannot be read as
well, because no order and no other member makes a bad field good.

As with the two forms of a body, nothing in this depends on what a conversion or a listing of
columns makes of its fields, except that it looks at nothing but the fields.

## Main definitions

* `Reply.MembersMove` — bodies with rearranged members come to the same

## Main results

* `Reply.membersMove_of_fields` — whatever is made of the fields of a record alone
* `Reply.members_in_any_order` — both kinds of replies
-/

namespace ConversionDesk

open ConversionDesk.Json

/-! ### What is made of the fields -/

/-- A conversion body looks at nothing but its fields. -/
theorem Conversion.Body.ofFields?_congr {a b : List (String × Value)}
    (h : ∀ name ∈ names, Record.field? name a = Record.field? name b) :
    ofFields? a = ofFields? b := by
  have hurl := h "download_url" (by simp [names])
  have hdata := h "data" (by simp [names])
  have herror := h "error" (by simp [names])
  have hflag := h "is_json_string" (by simp [names])
  simp only [ofFields?, hurl, hdata, herror, hflag]

/-- A column listing looks at nothing but its fields. -/
theorem Column.Listing.ofFields?_congr {a b : List (String × Value)}
    (h : ∀ name ∈ names, Record.field? name a = Record.field? name b) :
    ofFields? a = ofFields? b := by
  have hheaders := h "headers" (by simp [names])
  have herror := h "error" (by simp [names])
  simp only [ofFields?, hheaders, herror]

namespace Reply

variable {α β : Type}

/-- Bodies come to the same if one lists the members of the other in a different order, or with
other members that are no fields. -/
def MembersMove (names : List String) (read : String → Option α) (result : α → β)
    (settle : Reply → Except Failure β) : Prop :=
  ∀ body members other others, Lists body members → Lists other others →
    Rearranged (fun m => Record.Skipped names m.own) members others →
    Alike read result settle body other

/-- Members move freely wherever nothing but the fields of a record is looked at. -/
theorem membersMove_of_fields {names : List String}
    {ofFields? : List (String × Value) → Option α} {read : String → Option α} {result : α → β}
    {error : α → Option Value} {settle : Reply → Except Failure β}
    (hfields : ∀ a b, (∀ name ∈ names, Record.field? name a = Record.field? name b) →
      ofFields? a = ofFields? b)
    (hread : ∀ text, read text = (Record.parse? names text).bind ofFields?)
    (hsettle : ∀ reply, settle reply = reply.settle read result error) :
    MembersMove names read result settle := by
  intro body members other others hbody hother hmoved
  apply alike_of_read_eq hsettle
  rw [hread, hread]
  exact hmoved.parse?_bind_eq hbody hother hfields

/-! ### Both kinds of replies -/

/-- The order of the members of a body does not matter, and neither do members that are no
fields, for conversions and for column listings. Every object is such a list of members. -/
theorem members_in_any_order :
    (∀ body ms, Tree.parse? body = some (.object ms) ↔
      ∃ members, Lists body members ∧ members.map Member.own = ms) ∧
    MembersMove ["download_url", "data", "error", "is_json_string"]
      Conversion.Body.parse? Conversion.Body.outcome Conversion.settle ∧
    MembersMove ["headers", "error"]
      Column.Listing.parse? (fun l => l.headers.getD []) Column.discover := by
  refine ⟨fun body ms => Tree.parse?_eq_object_iff, ?_, ?_⟩
  · exact membersMove_of_fields (fun _ _ => Conversion.Body.ofFields?_congr) (fun _ => rfl)
      (fun _ => rfl)
  · exact membersMove_of_fields (fun _ _ => Column.Listing.ofFields?_congr) (fun _ => rfl)
      (fun _ => rfl)

/-- Data that are to be shown, in the spelling of their sender. -/
def dataMember : Member where
  nameText := "\"d\\u0061ta\""
  valueText := " [3]"
  name := some "data"
  value := .array [.number (some (.integer 3))]
  name_reads := by cbv
  value_reads := by cbv

def errorMember : Member where
  nameText := "\"error\" "
  valueText := "null"
  name := some "error"
  value := .null
  name_reads := by cbv
  value_reads := by cbv

/-- A member that is no field, with a string that denotes nothing. -/
def traceMember : Member where
  nameText := " \"trace\""
  valueText := " [\"\\ud800\"] "
  name := some "trace"
  value := .array [.string none]
  name_reads := by cbv
  value_reads := by cbv

def sentText : String := "\x7b\"d\\u0061ta\": [3],\"error\" :null\x7d"

/-- The same members in another order, with one that is no field in two places. -/
def movedText : String :=
  " \x7b \"trace\": [\"\\ud800\"] ,\"error\" :null,\"d\\u0061ta\": [3]," ++
    " \"trace\": [\"\\ud800\"] \x7d\n"

theorem movedText_shows_the_same :
    Lists sentText [dataMember, errorMember] ∧
      Lists movedText [traceMember, errorMember, dataMember, traceMember] ∧
      Conversion.settle (.received 200 sentText) = .ok (.display "[\n  3\n]") ∧
      Conversion.settle (.received 200 movedText) = .ok (.display "[\n  3\n]") := by
  have hsent : Lists sentText [dataMember, errorMember] :=
    ⟨"", "", "", by simp [Blank], by simp [Blank], by simp [Blank], by decide⟩
  have hmoved : Lists movedText [traceMember, errorMember, dataMember, traceMember] :=
    ⟨" ", "", "\n", by simp [Blank, Token.isBlank], by simp [Blank],
      by simp [Blank, Token.isBlank], by decide⟩
  have hskipped : Record.Skipped ["download_url", "data", "error", "is_json_string"]
      traceMember.own := ⟨"trace", rfl, by decide⟩
  have hrearranged : Rearranged
      (fun m => Record.Skipped ["download_url", "data", "error", "is_json_string"] m.own)
      [dataMember, errorMember] [traceMember, errorMember, dataMember, traceMember] :=
    ((Relation.ReflTransGen.single (.order (.swap errorMember dataMember []))).tail
      (.insert [] [errorMember, dataMember] hskipped)).tail
      (.insert [traceMember, errorMember, dataMember] [] hskipped)
  have halike := members_in_any_order.2.1 _ _ _ _ hsent hmoved hrearranged
  have hshown : Conversion.settle (.received 200 sentText) = .ok (.display "[\n  3\n]") := by cbv
  exact ⟨hsent, hmoved, hshown, (halike.settle_eq 200).symm.trans hshown⟩

end Reply

end ConversionDesk
