import ShapeForge.Proofs.Emit.Params
import ShapeForge.Proofs.Server.Answering
import ShapeForge.Proofs.Validation.Checking

/-!
# Members from the URL and from the body

The members of a request that are bound to the URL are put over those of its body.  What the URL
has always counts.  Where it has nothing for a member, the body is not kept from supplying one.
-/

namespace ShapeForge

/-- Of members put behind others, the last with a key counts. -/
theorem Json.lookup_append (key : String) (first second : List (String × Json)) :
    lookup key (first ++ second) = (lookup key second).or (lookup key first) := by
  simp only [lookup, List.reverse_append, List.find?_append, Option.map_or]

namespace Server

section Requests

variable (server : Server) (bound : BoundOperation) (endpoint : Endpoint Handler)
variable (values : List Bytes) (request : Request)

/-- What the URL has for a member that is bound to it: the text of its label, unless it is empty, or
else that of its query parameter. -/
def urlText? (member : Member) : Option String :=
  if member.traits.isLabel then
    let label := pathParam endpoint values
      (if member.name == bound.greedy then "*" else member.name)
    if label.isEmpty then none else some (textOf label)
  else (member.traits.query?.bind request.target.parameter?).map textOf

variable {server bound endpoint values request}

theorem urlMember?_eq (member : Member) :
    urlMember? bound endpoint values request.target member =
      (urlText? bound endpoint values request member).map
        fun text => (member.jsonName, .string text) := by
  unfold urlMember? urlText?
  split
  · simp only [apply_ite (Option.map _), Option.map_none, Option.map_some]
  · rw [Option.map_map]
    rfl

/-- With distinct names, what the URL supplies under the name of a member is what it has for it. -/
theorem lookup_supplied {input : Shape} {member : Member}
    (distinct : (input.members.map Member.jsonName).Nodup) (isMember : member ∈ input.members) :
    Json.lookup member.jsonName (supplied bound endpoint values request input) =
      (urlText? bound endpoint values request member).map .string := by
  have distinctKeys :
      ((supplied bound endpoint values request input).map Prod.fst).Nodup := by
    rw [List.Nodup, List.pairwise_map, supplied, List.pairwise_filterMap]
    refine (List.pairwise_map.mp distinct).imp fun {first second} different entry isEntry other
      isOther => ?_
    rw [urlMember?_eq, Option.map_eq_some_iff] at isEntry isOther
    rcases isEntry with ⟨-, -, rfl⟩
    rcases isOther with ⟨-, -, rfl⟩
    exact different
  ext value
  rw [Json.lookup_eq_some distinctKeys, supplied, List.mem_filterMap, Option.map_eq_some_iff]
  constructor
  · rintro ⟨other, isOther, isEntry⟩
    rw [urlMember?_eq, Option.map_eq_some_iff] at isEntry
    rcases isEntry with ⟨text, isText, same⟩
    rcases Prod.mk.inj same with ⟨sameName, rfl⟩
    rw [List.inj_on_of_nodup_map distinct isOther isMember sameName] at isText
    exact ⟨text, isText, rfl⟩
  · rintro ⟨text, isText, rfl⟩
    exact ⟨member, isMember, by rw [urlMember?_eq, isText]; rfl⟩

/-- The URL supplies nothing under names that belong to none of its members. -/
theorem lookup_supplied_eq_none {input : Shape} {key : String}
    (free : ∀ member ∈ input.members, Emit.fromUrl member = true → member.jsonName ≠ key) :
    Json.lookup key (supplied bound endpoint values request input) = none := by
  rw [Json.lookup_eq_none]
  intro isKey
  rcases List.mem_map.mp isKey with ⟨entry, isEntry, rfl⟩
  rcases List.mem_filterMap.mp isEntry with ⟨member, isMember, given⟩
  rw [urlMember?_eq, Option.map_eq_some_iff] at given
  rcases given with ⟨text, isText, rfl⟩
  refine free member isMember ?_ rfl
  cases isLabel : member.traits.isLabel with
  | true => rw [Emit.fromUrl, isLabel, Bool.true_or]
  | false =>
    rw [urlText?, isLabel, if_neg Bool.false_ne_true, Option.map_eq_some_iff] at isText
    rcases isText with ⟨value, isValue, -⟩
    rcases Option.bind_eq_some_iff.mp isValue with ⟨query, isQuery, -⟩
    rw [Emit.fromUrl, isQuery, Option.isSome_some, Bool.or_true]

theorem placed_eq_none {members : List (String × Json)} {body : Option (List (String × Json))} :
    placed members body = none ↔ body = none ∧ members ≠ [] := by
  cases body <;> cases members <;> simp [placed]

/-- Members that can be placed stand behind those of the body. -/
theorem placed_eq_some
    {members fields : List (String × Json)} {body : Option (List (String × Json))}
    (isPlaced : placed members body = some fields) :
    fields = body.getD [] ++ members := by
  cases body with
  | some given => exact (Option.some.inj isPlaced).symm
  | none =>
    cases members <;> cases isPlaced
    rfl

/-- A request whose body decodes gives an instance of the input, unless the body is `null` and the
URL has something for a member.  In the instance, a member that is bound to the URL is what the URL
has for it, and only where that is nothing what the body has under its name; everything else is as
in the body.  So the URL alone decides about its members exactly if the body has nothing for those
that the URL leaves out. -/
theorem url_members_of_instance
    {data : Bytes} {body : Option (List (String × Json))} {input : Shape}
    (given : request.body = .ok data) (decodes : Decodes data body)
    (resolved : server.model.resolveStructure bound.operation.input = .ok input)
    (distinct : (input.members.map Member.jsonName).Nodup) :
    ∃ result, requestInstance server bound endpoint values request = .ok result ∧
      (result = none ↔ body = none ∧
        ∃ member ∈ input.members, urlText? bound endpoint values request member ≠ none) ∧
      ∀ fields, result = some fields →
        (∀ member ∈ input.members, Emit.fromUrl member = true →
          Json.lookup member.jsonName fields =
            ((urlText? bound endpoint values request member).map .string).or
              (Json.lookup member.jsonName (body.getD []))) ∧
        (∀ key, (∀ member ∈ input.members, Emit.fromUrl member = true → member.jsonName ≠ key) →
          Json.lookup key fields = Json.lookup key (body.getD [])) ∧
        ((∀ member ∈ input.members, Emit.fromUrl member = true →
            Json.lookup member.jsonName fields =
              (urlText? bound endpoint values request member).map .string) ↔
          ∀ member ∈ input.members, Emit.fromUrl member = true →
            urlText? bound endpoint values request member = none →
            Json.lookup member.jsonName (body.getD []) = none) := by
  have isResult : requestInstance server bound endpoint values request =
      .ok (placed (supplied bound endpoint values request input) body) := by
    rw [requestInstance_of_body given, decodeBody_eq_ok.mpr decodes, resolved]
    rfl
  refine ⟨_, isResult, ?_, fun fields isFields => ?_⟩
  · rw [placed_eq_none, ne_eq, supplied, List.filterMap_eq_nil_iff]
    simp only [urlMember?_eq, Option.map_eq_none_iff, not_forall, exists_prop, ne_eq]
  · have ofMember (member : Member) (isMember : member ∈ input.members) :
        Json.lookup member.jsonName fields =
          ((urlText? bound endpoint values request member).map .string).or
            (Json.lookup member.jsonName (body.getD [])) := by
      rw [placed_eq_some isFields, Json.lookup_append, lookup_supplied distinct isMember]
    refine ⟨fun member isMember _ => ofMember member isMember, fun key free => ?_, ?_⟩
    · rw [placed_eq_some isFields, Json.lookup_append, lookup_supplied_eq_none free, Option.none_or]
    · refine forall_congr' fun member => imp_congr_right fun isMember => imp_congr_right fun _ => ?_
      rw [ofMember member isMember]
      cases urlText? bound endpoint values request member <;> simp

end Requests

/-! A depot that is searched by a query parameter. -/

namespace Search

def term : Member where
  name := "term"
  container := ⟨"depot#Search"⟩
  target := ⟨"smithy.api#String"⟩
  traits := [⟨⟨"smithy.api#httpQuery"⟩, "\"q\""⟩]

def input : Shape where
  id := ⟨"depot#Search"⟩
  body := .structure [term]

def model : Model := { version := "2.0", shapes := [input] }

def server : Server where
  model
  service := ⟨"depot#Depot"⟩
  mocks := { model, seed := 1, listSize := 5 }
  routes := []
  tree := .empty

def bound : BoundOperation where
  shape := { id := ⟨"depot#Find"⟩, body := .operation {} }
  operation := { input := ⟨"depot#Search"⟩ }
  method := "POST"
  pattern := "/find"
  code := 203
  greedy := ""

def endpoint : Endpoint Handler where
  target := .operation bound
  pattern := "/find"
  names := []

def requestWith (query : List (Bytes × Bytes)) : Request where
  method := "POST"
  target := { path := bytesOf "/find", routed := bytesOf "/find", query }
  body := .ok (bytesOf "\x7b\"term\":\"b\"\x7d")

theorem texts_read :
    bodyText (bytesOf "\x7b\"term\":\"b\"\x7d") = (Json.object [("term", .string "b")]).write ∧
      (Text.trim (bodyText (bytesOf "\x7b\"term\":\"b\"\x7d"))).isEmpty = false ∧
      urlText? bound endpoint [] (requestWith [(bytesOf "q", bytesOf "a")]) term = some "a" := by
  decide +kernel

theorem decodes_body :
    Decodes (bytesOf "\x7b\"term\":\"b\"\x7d") (some [("term", .string "b")]) := by
  rcases texts_read with ⟨text, given, -⟩
  refine .object given ?_ rfl (by decide)
  rw [text]
  exact Json.read?_write _ (by simp [Json.WellFormed, Json.literals, Json.literalsOfFields])

theorem resolved_input : server.model.resolveStructure bound.operation.input = .ok input :=
  rfl

theorem query?_term : term.traits.query? = some "q" := by
  decide

end Search

open Search in
theorem url_members_of_instance_search :
    ∃ fields, requestInstance server bound endpoint []
        (requestWith [(bytesOf "q", bytesOf "a")]) = .ok (some fields) ∧
      Json.lookup "term" fields = some (.string "a") := by
  rcases @url_members_of_instance server bound endpoint [] (requestWith _) _ _ _ rfl decodes_body
    resolved_input (List.nodup_singleton _) with ⟨result, isResult, isNone, ofInstance⟩
  cases result with
  | none => cases (isNone.mp rfl).1
  | some fields =>
    have ofTerm := (ofInstance fields rfl).1 term List.mem_cons_self (by decide)
    rw [texts_read.2.2] at ofTerm
    exact ⟨fields, isResult, ofTerm⟩

open Search in
/-- The URL has nothing for the member, so the body supplies it. -/
theorem url_member_from_body_search :
    Emit.fromUrl term = true ∧ urlText? bound endpoint [] (requestWith []) term = none ∧
      requestInstance server bound endpoint [] (requestWith []) =
        .ok (some [("term", .string "b")]) := by
  have nothing : urlText? bound endpoint [] (requestWith []) term = none := by
    rw [urlText?, if_neg (by decide), query?_term]
    rfl
  have unsupplied : supplied bound endpoint [] (requestWith []) input = [] := by
    rw [supplied, List.filterMap_eq_nil_iff]
    intro member isMember
    rw [List.mem_singleton.mp isMember, urlMember?_eq, nothing]
    rfl
  refine ⟨by rw [Emit.fromUrl, query?_term]; rfl, nothing, ?_⟩
  have merged : Merged server bound endpoint [] (requestWith []) _ :=
    .members rfl decodes_body resolved_input
  rw [merged.requestInstance, unsupplied]
  rfl

end Server

end ShapeForge
