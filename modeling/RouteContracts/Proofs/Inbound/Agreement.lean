import RouteContracts.Proofs.Inbound.QueryFields
import RouteContracts.Proofs.Json.Members
import RouteContracts.Proofs.Url.Query
import RouteContracts.Request.Outgoing

/-! # Agreement of clients and servers
The query that a client writes for some search parameters is read by a server that knows the same schema as these
parameters: no issue is reported for them, and their values are the same again, numbers by value and truth values
as their presence.

* `Inbound.Carries`: the requests with a URL.
* `Schema.Layered.check_searchMembers`: the parameters are accepted on their own.
* `Inbound.validate_prepared`: **a server reads what a client wrote.**
* `Inbound.readBack?_otherwise`: what is read otherwise. -/

namespace RouteContracts

/-- **`bodyMembers` has distinct names**, as all objects that are read. -/
theorem InboundRequest.nodup_bodyMembers (r : InboundRequest) : (r.bodyMembers.map Prod.fst).Nodup := by
  unfold bodyMembers
  split
  · cases hread : ((Utf8.decode? r.body).bind Json.read?).bind Json.asObject? with
    | none => exact List.nodup_nil
    | some members =>
      obtain ⟨v, hv, hobject⟩ := Option.bind_eq_some_iff.mp hread
      obtain ⟨text, -, htext⟩ := Option.bind_eq_some_iff.mp hv
      cases v with
      | object found =>
        obtain rfl := Option.some.inj hobject
        exact Json.nodup_of_read? htext
      | null | bool | number | string | array => cases hobject
  · exact List.nodup_nil

namespace Inbound

/-- A request with a URL, and the members of its body. -/
inductive Carries (u : Url) : Inbound → Members Json → Prop where
  | url : Carries u (.url u) []
  | event (r : InboundRequest) : Carries u (.event r u) r.bodyMembers

theorem Carries.nodup {u : Url} {i : Inbound} {body : Members Json} (h : Carries u i body) :
    (body.map Prod.fst).Nodup := by
  cases h with
  | url => exact List.nodup_nil
  | event r => exact r.nodup_bodyMembers

/-- What is `assembled` for a request with a URL: the body, with `searchMembers` in the place of its search
parameters. -/
theorem Carries.assembled {u : Url} {i : Inbound} {body : Members Json} (h : Carries u i body) {schema : Schema}
    {fields : Members Schema} (hdeclared : declaredSearch? schema = some fields) :
    i.assembled schema =
      .object ((body.erase searchParamsField).insert searchParamsField (.object (searchMembers u.pairs fields))) := by
  cases h <;> simp only [Inbound.assembled, merged, Option.bind_some, searchParams?, hdeclared, Option.map_some]

/-- After `erase` and `insert`, `get?` finds the search parameters under their name, and everything else as in the
body. -/
theorem Carries.get?_assembled {body : Members Json} (hbody : (body.map Prod.fst).Nodup) (search : Json) :
    Members.get? searchParamsField ((body.erase searchParamsField).insert searchParamsField search) = some search ∧
      ∀ name, name ≠ searchParamsField →
        Members.get? name ((body.erase searchParamsField).insert searchParamsField search) =
          Members.get? name body := by
  refine ⟨Members.get?_insert_self _ _ _, fun name hname => ?_⟩
  rw [Members.get?_insert_of_ne _ _ hname, Members.get?_erase_of_ne hname hbody]

end Inbound

namespace Schema

/-- `.object fields` checks an object field by field. -/
theorem check_object (fields : List (String × Schema)) (members : Members Json) :
    (Schema.object fields).check (some (.object members)) [] [] =
      ⟨some (.object (fields.filterMap fun f => (checkField f members).output.map fun v => (f.1, v))),
        fields.flatMap fun f => (checkField f members).issues.map (Issue.below [.key f.1])⟩ := by
  simp only [check]
  rw [checkFields_eq]
  rfl

/-- `declaredSearch?` of an object is given by the base of its field `searchParamsField`. -/
theorem declaredSearch?_of_base {fields searchFields : List (String × Schema)} {search : Schema}
    (hsearch : Members.get? Inbound.searchParamsField fields = some search)
    (hbase : search.base = .object searchFields) :
    Inbound.declaredSearch? (.object fields) = some searchFields := by
  have hfields : (Schema.object fields).fields? = some fields := rfl
  rw [Inbound.declaredSearch?, hfields, Option.bind_some, hsearch, Option.bind_some, fields?, hbase]

/-- `declaredSearch?` of an object is given by its field `searchParamsField`, under whatever layers. -/
theorem declaredSearch?_of_layered {fields searchFields : List (String × Schema)} {search : Schema} {coerced : Bool}
    (hsearch : Members.get? Inbound.searchParamsField fields = some search)
    (layered : Layered (.object searchFields) coerced search) :
    Inbound.declaredSearch? (.object fields) = some searchFields :=
  declaredSearch?_of_base hsearch layered.base_eq

/-- **A `Layered` schema of `QueryField`s accepts `searchMembers`** of the pairs of parameters that are `InQuery`. -/
theorem Layered.check_searchMembers {fields : List (String × Schema)} {search : Schema} {coerced : Bool}
    (layered : Layered (.object fields) coerced search) (names : (fields.map Prod.fst).Nodup)
    (hfields : ∀ f ∈ fields, QueryField f.2) {params : Members Json} (paramNames : (params.map Prod.fst).Nodup)
    (hparams : ∀ m ∈ params, m.2.InQuery) (hshape : search.toDescriptor.Inhabits (some (.object params))) :
    ∃ outs, search.check (some (.object (Inbound.searchMembers (Query.pairsOf params) fields))) [] [] =
        ⟨some (.object outs), []⟩ ∧
      ∀ name, Option.Rel Json.ReadsAs (Members.get? name params) (Members.get? name outs) := by
  rw [layered.check_some rfl Json.noConfusion]
  have hcore := layered.inhabits_core Json.noConfusion hshape
  obtain ⟨outs, hcheck, hreads⟩ :=
    Schema.check_searchMembers names hfields paramNames hparams hcore [] []
  refine ⟨outs, ?_, hreads⟩
  rw [← hcheck]
  cases coerced <;> rfl

end Schema

namespace Outgoing

/-- `prepare` succeeds where there is a path, with the pairs of the search parameters behind it. -/
theorem prepare_query (base : String) (method : Method) {pattern path : String} {options : RequestOptions}
    (hpath : Outgoing.path pattern options = .ok path) {params : Members Json}
    (hgiven : options.searchParams = some (.object params)) (hparams : ∀ m ∈ params, m.2.InQuery) :
    ∃ request notices, prepare base method pattern options = .ok (request, notices) ∧
      request.url = trimBase base ++ path ++
        (if (Query.pairsOf params).isEmpty then none else some (Form.encodePairs (Query.pairsOf params))).elim ""
          ("?" ++ ·) := by
  have hquery : Outgoing.query options = .ok
      (if (Query.pairsOf params).isEmpty then none else some (Form.encodePairs (Query.pairsOf params))) := by
    rw [Outgoing.query, hgiven, Query.text_eq fun m hm => (hparams m hm).not_nested]
  rw [prepare, hpath, hquery]
  exact ⟨_, _, rfl, rfl⟩

end Outgoing

namespace Inbound

/-! ## Objects that are checked as a whole -/

/-- The issues of `validate` are those of the fields, `below` their names. -/
theorem issues_of_validate {fields : List (String × Schema)} {members : Members Json} {i : Inbound}
    (hassembled : i.assembled (.object fields) = .object members) {r : Rejection}
    (hr : validate (.object fields) i = .error r) {issue : Issue} (hissue : issue ∈ r.issues) :
    ∃ f ∈ fields, ∃ inner ∈ (Schema.checkField f members).issues, issue = inner.below [.key f.1] := by
  rw [validate, hassembled, Schema.safeParse, Schema.check_object] at hr
  split at hr
  · cases hr
  · next issues heq =>
    split at heq
    · cases heq
    · obtain rfl := Except.error.inj heq
      obtain rfl := Except.error.inj hr
      obtain ⟨f, hf, hmem⟩ := List.mem_flatMap.mp hissue
      obtain ⟨inner, hinner, rfl⟩ := List.mem_map.mp hmem
      exact ⟨f, hf, inner, hinner, rfl⟩

/-- `validate` accepts an object whose fields have no issues, with their outputs. -/
theorem validate_of_passes {fields : List (String × Schema)} {members : Members Json} {i : Inbound}
    (hassembled : i.assembled (.object fields) = .object members)
    (hpass : ∀ f ∈ fields, f.2.Passes (Members.get? f.1 members)) :
    validate (.object fields) i =
      .ok (.object (fields.filterMap fun f => (Schema.checkField f members).output.map fun v => (f.1, v))) := by
  have hnone := Schema.passes_iff.mp (Schema.passes_object_iff.mpr hpass)
  rw [validate, hassembled, Schema.safeParse]
  simp only [hnone, List.isEmpty_nil, if_true]
  rw [Schema.check_object]
  rfl

/-! ## Requests as they are prepared -/

variable {fields searchFields : List (String × Schema)} {search : Schema} {coerced : Bool} {params : Members Json}

/-- **A server reads what a client wrote.** Where the path can be built and no query or fragment begins in the address,
`prepare` gives a request for some search parameters. Whatever URL `Url.ofText?` reads in its text, and whatever the
request `Carries` with it, `validate` reports no issue for the search parameters; and if everything else is accepted,
they are there again: the same names, each with a value that it `ReadsAs`, numbers by value and truth values as their
presence. -/
theorem validate_prepared (names : (fields.map Prod.fst).Nodup)
    (hsearch : Members.get? searchParamsField fields = some search)
    (layered : Schema.Layered (.object searchFields) coerced search)
    (searchNames : (searchFields.map Prod.fst).Nodup) (hfields : ∀ f ∈ searchFields, f.2.QueryField)
    (paramNames : (params.map Prod.fst).Nodup) (hparams : ∀ m ∈ params, m.2.InQuery)
    (hshape : search.toDescriptor.Inhabits (some (.object params)))
    (base : String) (method : Method) {pattern path : String} {options : RequestOptions}
    (hgiven : options.searchParams = some (.object params)) (hpath : Outgoing.path pattern options = .ok path)
    (haddress : ∀ c ∈ (trimBase base ++ path).toList, c ≠ '?' ∧ c ≠ '#') :
    ∃ request notices, Outgoing.prepare base method pattern options = .ok (request, notices) ∧
      ∀ u, Url.ofText? request.url = some u → ∀ i body, Carries u i body →
        (∀ r, validate (.object fields) i = .error r →
          ∀ issue ∈ r.issues, issue.path.head? ≠ some (.key searchParamsField)) ∧
        ((∀ f ∈ fields, f.1 ≠ searchParamsField → f.2.Passes (Members.get? f.1 body)) →
          ∃ members outs, validate (.object fields) i = .ok (.object members) ∧
            Members.get? searchParamsField members = some (.object outs) ∧
            ∀ name, Option.Rel Json.ReadsAs (Members.get? name params) (Members.get? name outs)) := by
  obtain ⟨request, notices, hprepare, hurl⟩ := Outgoing.prepare_query base method hpath hgiven hparams
  refine ⟨request, notices, hprepare, fun u hu i body hcarries => ?_⟩
  -- the URL gives back the pairs that were written, and the body has no part in them
  have hpairs : u.pairs = Query.pairsOf params := Url.pairs_of_ofText? haddress (hurl ▸ hu)
  have hassembled := hcarries.assembled (Schema.declaredSearch?_of_layered hsearch layered)
  rw [hpairs] at hassembled
  obtain ⟨outs, hcheck, hreads⟩ := layered.check_searchMembers searchNames hfields paramNames hparams hshape
  obtain ⟨hown, hothers⟩ := Carries.get?_assembled hcarries.nodup
    (.object (searchMembers (Query.pairsOf params) searchFields))
  generalize (body.erase searchParamsField).insert searchParamsField
    (.object (searchMembers (Query.pairsOf params) searchFields)) = members at hassembled hown hothers
  have hmem : (searchParamsField, search) ∈ fields := Members.mem_of_get? hsearch
  -- the field takes no issue from them, and reads them as the values they were written for
  have hfield : ∀ f ∈ fields, f.1 = searchParamsField →
      Schema.checkField f members = ⟨some (.object outs), []⟩ := by
    intro f hf hname
    have hf2 : f.2 = search := by
      have hget := Members.get?_of_mem names (show (f.1, f.2) ∈ fields from hf)
      rw [hname, hsearch] at hget
      exact (Option.some.inj hget).symm
    rw [Schema.checkField, hname, hown, hf2, hcheck]
  refine ⟨fun r hr issue hissue hhead => ?_, fun hpass => ?_⟩
  · -- An issue below the name would be one of the search parameters.
    obtain ⟨f, hf, inner, hinner, rfl⟩ := issues_of_validate hassembled hr hissue
    have hname : f.1 = searchParamsField := Step.key.inj (Option.some.inj hhead)
    rw [hfield f hf hname] at hinner
    cases hinner
  · have hall : ∀ f ∈ fields, f.2.Passes (Members.get? f.1 members) := by
      intro f hf
      by_cases hname : f.1 = searchParamsField
      · have hissues := congrArg Checked.issues (hfield f hf hname)
        exact Schema.passes_iff.mpr hissues
      · rw [hothers f.1 hname]
        exact hpass f hf hname
    refine ⟨_, outs, validate_of_passes hassembled hall, ?_, hreads⟩
    have hget := Members.get?_filterMap names (fun f => (Schema.checkField f members).output) hmem
    rw [hfield _ hmem rfl] at hget
    exact hget

/-! ## A list of posts -/

/-- Search parameters for a list of posts. -/
def postFields : List (String × Schema) :=
  [("page", .optional (.coerce .number)), ("tags", .array (.nullable .string)), ("draft", .boolean),
    ("marks", .coerce (.optional (.array (.coerce .boolean))))]

/-- A list of posts with a title. -/
def postsSchema : List (String × Schema) :=
  [("title", .optional .string), ("searchParams", .nullable (.object postFields))]

/-- Two tags, a page and a truth value. -/
def postParams : Members Json :=
  [("tags", .array [.string "a b", .string "c&d"]), ("draft", .bool false), ("page", .number (.int 3 (by decide)))]

/-- A request for `postParams`. -/
def postOptions : RequestOptions := ⟨none, none, some (.object postParams), [], none⟩

/-- `postParams` are read from the URL that is written for them. -/
theorem validate_prepared_posts :
    ∃ request notices u, Outgoing.prepare "http://h/" .get "/posts" postOptions = .ok (request, notices) ∧
      Url.ofText? request.url = some u ∧
      ∃ members outs, validate (.object postsSchema) (.url u) = .ok (.object members) ∧
        Members.get? searchParamsField members = some (.object outs) ∧
        ∀ name, Option.Rel Json.ReadsAs (Members.get? name postParams) (Members.get? name outs) := by
  -- the last of the four fields is left out in the parameters, as it may be
  have layered : Schema.Layered (.object postFields) false (.nullable (.object postFields)) := .nullable .core
  have hfields : ∀ f ∈ postFields, f.2.QueryField := by
    intro f hf
    simp only [postFields, List.mem_cons, List.not_mem_nil, or_false] at hf
    rcases hf with rfl | rfl | rfl | rfl
    · exact .number (.optional (.coerce .core))
    · exact .array (.string (.nullable .core)) .core
    · exact .boolean .core
    · exact .array (.boolean (.coerce .core)) (.coerce (.optional .core))
  have hparams : ∀ m ∈ postParams, m.2.InQuery := by
    intro m hm
    simp only [postParams, List.mem_cons, List.not_mem_nil, or_false] at hm
    rcases hm with rfl | rfl | rfl
    · refine .array (List.cons_ne_nil _ _) fun item hitem => ?_
      simp only [List.mem_cons, List.not_mem_nil, or_false] at hitem
      rcases hitem with rfl | rfl <;> exact .string _
    · exact .scalar (.bool _)
    · exact .scalar (.number (show (3 : Int) ≤ _ by decide))
  have hshape : (Schema.nullable (.object postFields)).toDescriptor.Inhabits (some (.object postParams)) := by
    refine .nullable ((Schema.inhabits_object_iff (by decide)).mpr ⟨by decide, fun f hf => ?_⟩)
    simp only [postFields, List.mem_cons, List.not_mem_nil, or_false] at hf
    rcases hf with rfl | rfl | rfl | rfl
    · exact .optional (.number _)
    · refine .array fun item hitem => ?_
      simp only [List.mem_cons, List.not_mem_nil, or_false] at hitem
      rcases hitem with rfl | rfl <;> exact .nullable (.string _)
    · exact .boolean _
    · exact .absent _
  have hpath : Outgoing.path "/posts" postOptions = .ok "/posts" := by cbv
  obtain ⟨request, notices, hprepare, hagree⟩ :=
    @validate_prepared postsSchema postFields _ false postParams (by decide) rfl layered (by decide) hfields (by decide)
      hparams hshape "http://h/" .get "/posts" "/posts" postOptions rfl hpath
      (Text.forall_mem_of_all (by decide))
  have hurl : Outgoing.prepare "http://h/" .get "/posts" postOptions =
      .ok (⟨.get, "http://h/posts?tags=a+b&tags=c%26d&draft=false&page=3", [("Accept", "application/json")], none,
        none⟩, []) := by
    rw [Outgoing.prepare, hpath]
    rfl
  obtain ⟨rfl, rfl⟩ := Prod.mk.inj (Except.ok.inj (hprepare.symm.trans hurl))
  have hu : Url.ofText? "http://h/posts?tags=a+b&tags=c%26d&draft=false&page=3" =
      some ⟨"http", "", some "h", none, "/posts", some "tags=a+b&tags=c%26d&draft=false&page=3", none⟩ := rfl
  refine ⟨_, _, _, hprepare, hu, (hagree _ hu _ _ .url).2 fun f hf hname => ?_⟩
  simp only [postsSchema, List.mem_cons, List.not_mem_nil, or_false] at hf
  rcases hf with rfl | rfl
  · exact Schema.passes_iff.mpr rfl
  · exact absurd rfl hname

/-! ## What is read otherwise -/

/-- What a server with a schema for search parameters reads from the URL that a client writes for some. -/
def readBack? (pattern : String) (search : Schema) (params : Members Json) : Option (Except Rejection Json) :=
  match Outgoing.prepare "http://h" .get pattern ⟨none, none, some (.object params), [], none⟩ with
  | .ok (sent, _) => (Url.ofText? sent.url).map fun u => validate (.object [(searchParamsField, search)]) (.url u)
  | .error _ => none

theorem readBack?_of_fill {pattern path : String} (h : Pattern.fill pattern none = .ok path) (search : Schema)
    (params : Members Json) :
    readBack? pattern search params = ((Query.text (some (.object params))).toOption.bind fun query =>
      (Url.ofText? (trimBase "http://h" ++ path ++ query.elim "" ("?" ++ ·))).map fun u =>
        validate (.object [(searchParamsField, search)]) (.url u)) := by
  have hpath : Outgoing.path pattern ⟨none, none, some (.object params), [], none⟩ = .ok path := by
    rw [Outgoing.path, h]
  rw [readBack?, Outgoing.prepare, hpath, Outgoing.query]
  cases Query.text (some (.object params)) with
  | ok query => rfl
  | error why =>
    cases why
    rfl

/-- **What the conditions of `validate_prepared` are for.** All these parameters have the shape of their schema. But a
truth value is read as its presence; a number, and an item of a list that is no text, is not read without a layer that
converts it; an integer that is too large for a signed one is rounded; and the query is lost behind a number sign or a
question mark in the path. -/
theorem readBack?_otherwise :
    ((Schema.object [("on", .boolean)]).toDescriptor.Inhabits (some (.object [("on", .bool false)])) ∧
      readBack? "/" (.object [("on", .boolean)]) [("on", .bool false)] =
        some (.ok (.object [("searchParams", .object [("on", .bool true)])]))) ∧
    ((Schema.object [("page", .number)]).toDescriptor.Inhabits
        (some (.object [("page", .number (.int 1 (by decide)))])) ∧
      readBack? "/" (.object [("page", .number)]) [("page", .number (.int 1 (by decide)))] =
        some (.error ⟨[⟨[.key "searchParams", .key "page"], "Expected number, received string"⟩]⟩)) ∧
    ((Schema.object [("on", .array .boolean)]).toDescriptor.Inhabits (some (.object [("on", .array [.bool true])])) ∧
      readBack? "/" (.object [("on", .array .boolean)]) [("on", .array [.bool true])] =
        some (.error ⟨[⟨[.key "searchParams", .key "on", .index 0], "Expected boolean, received string"⟩]⟩)) ∧
    ((Schema.object [("page", .coerce .number)]).toDescriptor.Inhabits
        (some (.object [("page", .number (.int 9223372036854775809 (by decide)))])) ∧
      readBack? "/" (.object [("page", .coerce .number)]) [("page", .number (.int 9223372036854775809 (by decide)))] =
        some (.ok (.object [("searchParams", .object
          [("page", .number (.float ⟨false, 4890909195324358656, by decide⟩))])])) ∧
      (Json.Number.float ⟨false, 4890909195324358656, by decide⟩).value ≠ 9223372036854775809) ∧
    ((Schema.object [("page", .coerce .number)]).toDescriptor.Inhabits
        (some (.object [("page", .number (.int 1 (by decide)))])) ∧
      ∀ pattern ∈ ["/a#b", "/a?b"],
        readBack? pattern (.object [("page", .coerce .number)]) [("page", .number (.int 1 (by decide)))] =
          some (.error ⟨[⟨[.key "searchParams", .key "page"], "Required"⟩]⟩)) := by
  have hroot : Pattern.fill "/" none = .ok "/" := by cbv
  have hsign : Pattern.fill "/a#b" none = .ok "/a#b" := by cbv
  have hmark : Pattern.fill "/a?b" none = .ok "/a?b" := by cbv
  have hshape : ∀ {name : String} {s : Schema} {v : Json}, s.toDescriptor.Inhabits (some v) →
      (Schema.object [(name, s)]).toDescriptor.Inhabits (some (.object [(name, v)])) := by
    intro name s v h
    refine (Schema.inhabits_object_iff (by simp)).mpr ⟨by simp, fun f hf => ?_⟩
    obtain rfl := List.mem_singleton.mp hf
    rw [Members.get?, if_pos rfl]
    exact h
  refine ⟨⟨hshape (.boolean _), ?_⟩, ⟨hshape (.number _), ?_⟩, ⟨hshape (.array fun item hitem => ?_), ?_⟩,
    ⟨hshape (.number _), ?_, ?_⟩, ⟨hshape (.number _), fun pattern hpattern => ?_⟩⟩
  · rw [readBack?_of_fill hroot]
    rfl
  · rw [readBack?_of_fill hroot]
    rfl
  · obtain rfl := List.mem_singleton.mp hitem
    exact .boolean _
  · rw [readBack?_of_fill hroot]
    rfl
  · rw [readBack?_of_fill hroot]
    rfl
  · have hsignificand : Binary64.significand 4890909195324358656 = 4503599627370496 := rfl
    have hscale : Binary64.scale 4890909195324358656 = 11 := rfl
    rw [Json.Number.value, Binary64.value, Binary64.magnitude, hsignificand, hscale]
    norm_num
  · simp only [List.mem_cons, List.not_mem_nil, or_false] at hpattern
    rcases hpattern with rfl | rfl
    · rw [readBack?_of_fill hsign]
      rfl
    · rw [readBack?_of_fill hmark]
      rfl

end Inbound

end RouteContracts
