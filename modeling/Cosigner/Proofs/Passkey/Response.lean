import Cosigner.Passkey.Response
import Cosigner.Proofs.Json.Record

/-!
# Reading Back a Response

A response that is printed is read back, whatever its texts contain and whichever
of its optional parts are there. So reading a text and printing the result has
nothing left to do when it is done again: the printed text is read as the same
response and is printed as itself.

The proof follows the parts of a response. Each of them is written as the members
that it is read from, which makes it faithful once its members are. One part does
not fit into this pattern. What the user was asked for is written as members with a
tag in front, and is read by taking the tag away first. Taking it away leaves the
members of one of the variants, and from there on it is a record like the others.
Before that, the value is taken in as a whole, and so its being readable has to be
known on top of everything else.

## Main definitions

* `AuthorizationResponse.normalize?`: Reading a text and printing the result.

## Theorems

* `RequestData.untag?_ofFields`: Taking the tag away from what was written.
* `RequestData.faithful`: What was asked for is read back.
* `AuthorizationResponse.faithful`: So is a response.
* `AuthorizationResponse.normalize?_idempotent`: Printing and reading keep every
  response, and printing what was read settles the text.
-/

namespace Cosigner

-- For every record there are two things to show: that its members are proper, and that
-- looking them up by name finds what was written.
theorem WebAuthnAssertion.faithful : Json.Faithful toJson ofJson? := by
  refine Json.faithful_ofFields _ _ _ (fun _ => rfl) (by decide) (fun a => ?_) fun a => ?_
  · exact ⟨Json.faithful_text.proper _, Json.faithful_text.proper _,
      Json.faithful_text.proper_ofOption _⟩
  · simp only [Json.Record.required?_cons, Json.Record.defaulted?_cons, String.reduceEq, if_true,
      if_false, Json.faithful_text.read_write, Json.faithful_text.read_ofOption,
      Option.bind_eq_bind, Option.bind_some, Option.pure_def]

theorem ClientAuthorization.faithful : Json.Faithful toJson ofJson? := by
  refine Json.faithful_ofFields _ _ _ (fun _ => rfl) (by decide) (fun a => ?_) fun a => ?_
  · exact ⟨Json.faithful_text.proper _, Json.faithful_text.proper _⟩
  · simp only [Json.Record.required?_cons, String.reduceEq, if_true, if_false,
      Json.faithful_text.read_write, Option.bind_eq_bind, Option.bind_some, Option.pure_def]

theorem KeyAuthorization.faithful : Json.Faithful toJson ofJson? := by
  refine Json.faithful_ofFields _ _ _ (fun _ => rfl) (by decide) (fun a => ?_) fun a => ?_
  · exact ⟨Json.faithful_text.proper _, Json.faithful_text.proper _⟩
  · simp only [Json.Record.required?_cons, String.reduceEq, if_true, if_false,
      Json.faithful_text.read_write, Option.bind_eq_bind, Option.bind_some, Option.pure_def]

namespace RequestData

-- The tag stands in front, and no other member has its name.
theorem partition_cons_of_forall {α : Type} (p : α → Bool) (a : α) (as : List α)
    (ha : p a = true) (has : ∀ x ∈ as, p x = false) : (a :: as).partition p = ([a], as) := by
  have hin : (a :: as).filter p = [a] := by
    rw [List.filter_cons_of_pos ha, List.filter_eq_nil_iff.mpr]
    exact fun x hx => by simp only [has x hx, Bool.false_eq_true, not_false_eq_true]
  have hout : (a :: as).filter (not ∘ p) = as := by
    rw [List.filter_cons_of_neg, List.filter_eq_self.mpr]
    · exact fun x hx => by simp only [Function.comp_apply, has x hx, Bool.not_false]
    · simp only [Function.comp_apply, ha, Bool.not_true, Bool.false_eq_true, not_false_eq_true]
  rw [List.partition_eq_filter_filter, hin, hout]

/-- Taking the tag away from an object that was written leaves its other members. -/
theorem untag?_ofFields (tag : String) (fields : List (String × Json))
    (h : "type" ∉ fields.map (·.1)) :
    untag? (.ofFields (("type", .ofText tag) :: fields)) = some (tag, .ofFields fields) := by
  simp only [Json.ofFields, List.map_cons, untag?]
  generalize hraw : fields.map _ = others
  have hothers : ∀ m ∈ others, decide (Json.textOf? m.1 = some "type") = false := by
    intro m hm
    rw [← hraw] at hm
    rcases List.mem_map.mp hm with ⟨field, hfield, rfl⟩
    refine decide_eq_false fun heq => h ?_
    rw [Json.textOf?_escape, Option.some.injEq] at heq
    rw [← heq]
    exact List.mem_map_of_mem hfield
  have hpart := partition_cons_of_forall _ (Json.escape "type", Json.ofText tag) others
    (decide_eq_true (Json.textOf?_escape "type")) hothers
  simp only [hpart, Json.faithful_text.read_write]
  rfl

-- The value is nested no deeper than one object.
theorem readable_toJson (d : RequestData) : d.toJson.readable levels = true := by
  have hlevels : decide (0 < levels) = true := by decide
  cases d with
  | transaction payload send =>
      simp only [toJson, Json.ofFields, Json.ofText, List.map_cons, List.map_nil, Json.readable,
        Json.readableMembers, Json.textOf?_escape, Option.isSome_some, hlevels, Bool.and_true]
  | message payload =>
      simp only [toJson, Json.ofFields, Json.ofText, List.map_cons, List.map_nil, Json.readable,
        Json.readableMembers, Json.textOf?_escape, Option.isSome_some, hlevels, Bool.and_true]

theorem faithful : Json.Faithful toJson ofJson? where
  proper d := by
    cases d with
    | transaction payload send =>
        exact Json.proper_ofFields _ (List.forall_iff_forall_mem.mp
          ⟨Json.faithful_text.proper _, Json.faithful_text.proper _, Json.faithful_bool.proper _⟩)
    | message payload =>
        exact Json.proper_ofFields _ (List.forall_iff_forall_mem.mp
          ⟨Json.faithful_text.proper _, Json.faithful_text.proper _⟩)
  ne_null d := by
    cases d <;> simp only [toJson, Json.ofFields, ne_eq, reduceCtorEq, not_false_eq_true]
  read_write d := by
    rw [ofJson?, readable_toJson]
    -- Without its tag, the value is a record like the others.
    cases d with
    | transaction payload send =>
        have huntag := untag?_ofFields "transaction"
          [("payload", .ofText payload), ("sendTx", .bool send)]
          (show "type" ∉ ["payload", "sendTx"] by decide)
        have hrecord := Json.record?_ofFields ["payload", "sendTx"]
          [("payload", .ofText payload), ("sendTx", .bool send)] (fun _ hname => hname)
          (show ["payload", "sendTx"].Nodup by decide)
        simp only [toJson, Bool.not_true, Bool.false_eq_true, if_true, if_false, huntag, hrecord,
          Json.Record.required?_cons, Json.Record.defaulted?_cons, String.reduceEq,
          Json.faithful_text.read_write, Json.faithful_bool.read_write, Option.bind_eq_bind,
          Option.bind_some, Option.pure_def]
    | message payload =>
        have huntag := untag?_ofFields "message" [("payload", .ofText payload)]
          (show "type" ∉ ["payload"] by decide)
        have hrecord := Json.record?_ofFields ["payload"] [("payload", .ofText payload)]
          (fun _ hname => hname) (show ["payload"].Nodup by decide)
        simp only [toJson, Bool.not_true, Bool.false_eq_true, if_true, if_false, huntag, hrecord,
          Json.Record.required?_cons, String.reduceEq, Json.faithful_text.read_write,
          Option.bind_eq_bind, Option.bind_some, Option.pure_def]

end RequestData

theorem StartRequest.faithful : Json.Faithful toJson ofJson? := by
  refine Json.faithful_ofFields _ _ _ (fun _ => rfl) (by decide) (fun s => ?_) fun s => ?_
  · exact ⟨Json.faithful_u64.proper _, RequestData.faithful.proper _⟩
  · simp only [Json.Record.required?_cons, String.reduceEq, if_true, if_false,
      Json.faithful_u64.read_write, RequestData.faithful.read_write, Option.bind_eq_bind,
      Option.bind_some, Option.pure_def]

namespace AuthorizationResponse

theorem faithful : Json.Faithful toJson ofJson? := by
  refine Json.faithful_ofFields names _ _ (fun _ => rfl) (by decide) (fun a => ?_) fun a => ?_
  · exact ⟨WebAuthnAssertion.faithful.proper _, ClientAuthorization.faithful.proper _,
      KeyAuthorization.faithful.proper _, KeyAuthorization.faithful.proper_ofOption _,
      StartRequest.faithful.proper _, Json.faithful_u64.proper _, Json.faithful_text.proper _,
      Json.faithful_text.proper _⟩
  · simp only [Json.Record.required?_cons, Json.Record.defaulted?_cons, String.reduceEq, if_true,
      if_false, WebAuthnAssertion.faithful.read_write, ClientAuthorization.faithful.read_write,
      KeyAuthorization.faithful.read_write, KeyAuthorization.faithful.read_ofOption,
      StartRequest.faithful.read_write, Json.faithful_u64.read_write,
      Json.faithful_text.read_write, Option.bind_eq_bind, Option.bind_some, Option.pure_def]

/-- Reading a text and printing the result. -/
def normalize? (text : Bytes) : Option Bytes :=
  (read? text).map print

/-- Printing and reading keep every response. So what a text was read as is read from
    the printed text again, and printing that changes nothing more. -/
theorem normalize?_idempotent :
    (∀ a : AuthorizationResponse, read? a.print = some a) ∧
      ∀ text printed, normalize? text = some printed →
        read? printed = read? text ∧ normalize? printed = some printed := by
  have hprint : ∀ a : AuthorizationResponse, read? a.print = some a := faithful.read?_print
  refine ⟨hprint, fun text printed hnormal => ?_⟩
  rcases Option.map_eq_some_iff.mp hnormal with ⟨a, hread, rfl⟩
  rw [normalize?, hprint a, hread]
  exact ⟨rfl, rfl⟩

end AuthorizationResponse

end Cosigner
