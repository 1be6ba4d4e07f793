import Intermediary.Forwarding
import Intermediary.Proofs.Header.Items

/-!
# Lists of clients

Each time a request is passed on its list of clients grows by one item, and
nothing but the forwarding fields changes in its header.  A client is caught in a
circle just when the list had it from the start or it was added on the way.
-/

namespace Intermediary

open Text

namespace Header

/-! ## Headers that are built -/

inductive Built : Header -> Prop
  | empty : Built empty
  | set {header : Header} (h : Built header) (name value : String) :
      Built (header.set name value)
  | append {header : Header} (h : Built header) (name item : String) :
      Built (header.append name item)
  | receive {header : Header} (h : Built header) (name value : String) :
      Built (header.receive name value)
  | remove {header : Header} (h : Built header) (name : String) : Built (header.remove name)

/-- Of a header that is built, no two fields would be joined. -/
theorem Built.apart {header : Header} (h : Built header) :
    (header.fields.map Field.name).Pairwise NamesApart := by
  induction h with
  | empty => exact List.Pairwise.nil
  | set _ _ _ ih => exact apart_upsert ih
  | append _ _ _ ih => exact apart_upsert ih
  | receive _ name value ih =>
      unfold Header.receive
      split
      · next hcookie => exact apart_push ih hcookie
      · exact apart_upsert ih
  | remove _ name ih => exact ih.sublist (List.eraseP_sublist.map Field.name)

private theorem Built.length_named_le {header : Header} (h : Built header) {name : String}
    (hname : sameIgnoringCase name setCookie = false) : (header.named name).length ≤ 1 := by
  rw [named, filter_of_apart h.apart hname]
  exact Option.length_toList_le

/-! ## The fields of a name after a change -/

theorem length_named_append (header : Header) (name item : String) :
    ((header.append name item).named name).length = max 1 (header.named name).length := by
  unfold named append
  rcases upsert_cases name item (joined · item) header.fields with
    ⟨before, field, after, hsplit, _, hfield, heq⟩ | ⟨habsent, heq⟩
  · rw [heq, hsplit]
    simp [hfield]
    omega
  · have hnil : header.fields.filter (sameIgnoringCase ·.name name) = [] :=
      List.filter_eq_nil_iff.2 fun other hother => by simp [habsent other hother]
    rw [heq, List.filter_append, hnil]
    simp [sameIgnoringCase_refl]

private theorem named_set_of_ne {header : Header} {name other value : String}
    (h : sameIgnoringCase name other = false) :
    (header.set name value).named other = header.named other :=
  filter_upsert fun field hfield => by rw [sameIgnoringCase_congr_left hfield, h]

end Header

namespace Forwarding

def isOther (field : Field) : Bool :=
  !sameIgnoringCase field.name forwardedFor && !sameIgnoringCase field.name forwardedProto

/--
A header that has come from another by naming clients in it: they are added to
its list, in order, and the other fields stand as they stood.
-/
structure Extends (before after : Header) (clients : List String) : Prop where
  listed : after.items forwardedFor = before.items forwardedFor ++ clients
  others : after.fields.filter isOther = before.fields.filter isOther
  proto : clients ≠ [] -> after.get? forwardedProto = some "http"
  entries : clients ≠ [] ->
    (after.named forwardedFor).length = max 1 (before.named forwardedFor).length
  unchanged : clients = [] -> after = before

theorem extends_nil (header : Header) : Extends header header [] where
  listed := (List.append_nil _).symm
  others := rfl
  proto := fun h => absurd rfl h
  entries := fun h => absurd rfl h
  unchanged := fun _ => rfl

theorem extends_addFields (header : Header) {client : String} (h : Header.IsItem client) :
    Extends header (addFields client header) [client] where
  listed := by
    rw [addFields, Header.items_append_self, Header.valueItems_of_isItem h,
      Header.items_set_of_ne (by decide)]
  others := by
    simp only [addFields, Header.append, Header.set]
    rw [Header.filter_upsert fun field hfield => by simp [isOther, hfield],
      Header.filter_upsert fun field hfield => by simp [isOther, hfield]]
  proto := by
    intro _
    rw [addFields, Header.get?_append_of_ne (by decide), Header.get?_set_self]
  entries := by
    intro _
    rw [addFields, Header.length_named_append, Header.named_set_of_ne (by decide)]
  unchanged := fun h => absurd h (List.cons_ne_nil _ _)

theorem Extends.cons {before between after : Header} {client : String}
    {clients : List String} (hfirst : Extends before between [client])
    (hrest : Extends between after clients) : Extends before after (client :: clients) where
  listed := by
    rw [hrest.listed, hfirst.listed, List.append_assoc, List.singleton_append]
  others := hrest.others.trans hfirst.others
  proto := by
    intro _
    by_cases hnil : clients = []
    · rw [hrest.unchanged hnil]
      exact hfirst.proto (List.cons_ne_nil _ _)
    · exact hrest.proto hnil
  entries := by
    intro _
    have hone := hfirst.entries (List.cons_ne_nil _ _)
    by_cases hnil : clients = []
    · rw [hrest.unchanged hnil, hone]
    · rw [hrest.entries hnil, hone]
      omega
  unchanged := fun h => absurd h (List.cons_ne_nil _ _)

def markAll (request : Request) (clients : List String) : Request :=
  clients.foldl (fun marked client => mark { marked with client := client }) request

private theorem extends_markAll_header {clients : List String}
    (h : ∀ client ∈ clients, Header.IsItem client) (request : Request) :
    Extends request.header (markAll request clients).header clients := by
  induction clients generalizing request with
  | nil => exact extends_nil request.header
  | cons client clients ih =>
      obtain ⟨hclient, hclients⟩ := List.forall_mem_cons.1 h
      exact (extends_addFields request.header hclient).cons
        (ih hclients (mark { request with client := client }))

/--
However often a request is passed on, its list is the one it came with and then
all that passed it on, in one field; and a client finds itself in a circle just
when it stands in that list.
-/
theorem extends_markAll {clients : List String}
    (h : ∀ client ∈ clients, Header.IsItem client) (request : Request) :
    Extends request.header (markAll request clients).header clients ∧
      (request.header.Built -> clients ≠ [] ->
        ∃ field, (markAll request clients).header.named forwardedFor = [field]) ∧
      ∀ client,
        (containsLoop { markAll request clients with client := client } = true ↔
          client ∈ request.header.items forwardedFor ∨ client ∈ clients) := by
  have hextends := extends_markAll_header h request
  refine ⟨hextends, ?_, ?_⟩
  · intro hbuilt hne
    have hbefore : (request.header.named forwardedFor).length ≤ 1 :=
      hbuilt.length_named_le (by decide)
    have hafter := hextends.entries hne
    rw [Nat.max_eq_left hbefore] at hafter
    exact List.length_eq_one_iff.1 hafter
  · intro client
    rw [containsLoop_iff, hextends.listed, List.mem_append]

/-- A request whose list has an empty item, under a name in small letters. -/
def smallRequest : Request :=
  { Request.bare .get "a.test" 80 "/" with
    header := ⟨[⟨"x-forwarded-for", " ,10.0.0.50"⟩, ⟨"Accept", "*"⟩]⟩ }

theorem extends_markAll_small :
    (∀ client ∈ ["10.0.0.5", "::1"], Header.IsItem client) ∧ smallRequest.header.Built ∧
      (markAll smallRequest ["10.0.0.5", "::1"]).header.items forwardedFor =
        ["10.0.0.50", "10.0.0.5", "::1"] ∧
      ∃ field, (markAll smallRequest ["10.0.0.5", "::1"]).header.named forwardedFor =
        [field] := by
  have hclients : ∀ client ∈ ["10.0.0.5", "::1"], Header.IsItem client := by
    have hall : ∀ client ∈ ["10.0.0.5", "::1"], client ≠ "" ∧
        client.toList.all (! isBlank ·) = true ∧ ',' ∉ client.toList := by
      decide
    intro client hclient
    obtain ⟨hne, hclean, hcomma⟩ := hall client hclient
    exact ⟨hne, (clean_of_all hclean).trimmed, hcomma⟩
  have hbuilt : smallRequest.header.Built :=
    .set (.set .empty "x-forwarded-for" " ,10.0.0.50") "Accept" "*"
  obtain ⟨hextends, hone, _⟩ := extends_markAll hclients smallRequest
  refine ⟨hclients, hbuilt, ?_, hone hbuilt (by decide)⟩
  rw [hextends.listed]
  decide +kernel

end Forwarding

end Intermediary
