import Mathlib.Data.List.Induction
import RouteContracts.Request.Outgoing

/-! # Headers of requests
A header that is set takes the place of every other of its name, whatever the case of the letters, and goes to the
end. So a request has one header of each name: the last one that the caller gives, or else a default.

* `lastOfEach`: the headers that no later one replaces. `defaultHeader?`: the defaults by name.
* `foldl_setHeader`: **which headers are left, and in which order.** `find?_foldl_setHeader`: which one is found.
* `Outgoing.headers_resolved`: **the headers of a request.** -/

namespace RouteContracts

/-! ## Names of headers -/

theorem sameHeader_iff {a b : String} :
    sameHeader a b = true ↔ a.toList.map Char.toLower = b.toList.map Char.toLower := by
  rw [sameHeader, beq_iff_eq]

@[simp] theorem sameHeader_self (a : String) : sameHeader a a = true := sameHeader_iff.mpr rfl

theorem sameHeader_comm (a b : String) : sameHeader a b = sameHeader b a := by
  rw [sameHeader, sameHeader, Bool.beq_comm]

/-- `sameHeader` is a congruence: names that are the same are the same as the same names. -/
theorem sameHeader_congr {a b : String} (h : sameHeader a b = true) (name : String) :
    sameHeader a name = sameHeader b name := by
  rw [sameHeader, sameHeader, sameHeader_iff.mp h]

/-! ## Setting one header -/

section

variable (headers : List (String × String)) (h : String × String)

/-- `find?` after `setHeader` finds `h` under its name, and any other header as before. -/
theorem find?_setHeader (name : String) :
    (setHeader headers h).find? (fun x => sameHeader x.1 name) =
      if sameHeader h.1 name then some h else headers.find? fun x => sameHeader x.1 name := by
  rw [setHeader, List.find?_append, List.find?_singleton, List.find?_filter]
  split
  · next hname =>
    -- whatever would be found under the name was removed
    have hgone : headers.find? (fun x => !sameHeader x.1 h.1 ∧ sameHeader x.1 name) = none := by
      refine List.find?_eq_none.mpr fun x _ => ?_
      rw [sameHeader_comm x.1 h.1, sameHeader_congr hname, sameHeader_comm name]
      simp
    rw [hgone]
    rfl
  · next hname =>
    -- a header of the name has another name than the one that was set, so it was kept
    have hkept : (fun x : String × String => decide (!sameHeader x.1 h.1 ∧ sameHeader x.1 name)) =
        fun x => sameHeader x.1 name := by
      funext x
      cases hx : sameHeader x.1 name with
      | false => simp
      | true =>
        rw [sameHeader_congr hx, sameHeader_comm name, Bool.eq_false_iff.mpr hname]
        rfl
    rw [hkept, Option.or_none]

/-- `setHeader` leaves no name twice. -/
theorem pairwise_setHeader (distinct : headers.Pairwise fun a b => sameHeader a.1 b.1 = false) :
    (setHeader headers h).Pairwise fun a b => sameHeader a.1 b.1 = false := by
  rw [setHeader, List.pairwise_append]
  refine ⟨distinct.filter _, List.pairwise_singleton _ _, fun a ha b hb => ?_⟩
  obtain rfl := List.mem_singleton.mp hb
  simpa using (List.mem_filter.mp ha).2

end

/-! ## Setting headers one after another -/

/-- The headers that no later one of their name replaces, in order. -/
def lastOfEach : List (String × String) → List (String × String)
  | [] => []
  | h :: rest => if rest.any fun later => sameHeader h.1 later.1 then lastOfEach rest else h :: lastOfEach rest

/-- **What is left when headers are set**: those of `start` that none of `headers` replaces, and behind them
`lastOfEach`. -/
theorem foldl_setHeader (start headers : List (String × String)) :
    headers.foldl setHeader start =
      start.filter (fun d => !headers.any fun h => sameHeader d.1 h.1) ++ lastOfEach headers := by
  induction headers generalizing start with
  | nil => exact ((List.append_nil _).trans (List.filter_eq_self.mpr fun _ _ => rfl)).symm
  | cons h rest ih =>
    -- dropping one name and then those of the rest drops all of them
    have hstart : (start.filter fun d => !sameHeader d.1 h.1).filter (fun d => !rest.any fun x => sameHeader d.1 x.1) =
        start.filter fun d => !(h :: rest).any fun x => sameHeader d.1 x.1 := by
      rw [List.filter_filter]
      refine List.filter_congr fun d _ => ?_
      rw [List.any_cons, Bool.not_or, Bool.and_comm]
    rw [List.foldl_cons, ih, setHeader, List.filter_append, hstart, List.append_assoc, lastOfEach]
    split
    · next hlater => rw [List.filter_cons_of_neg (by rw [hlater]; decide), List.filter_nil, List.nil_append]
    · next hlater =>
      rw [List.filter_cons_of_pos (by rw [Bool.eq_false_iff.mpr hlater]; rfl), List.filter_nil, List.singleton_append]

/-- `find?` finds the last of `headers` with the name, or else what `start` has. -/
theorem find?_foldl_setHeader (start headers : List (String × String)) (name : String) :
    (headers.foldl setHeader start).find? (fun x => sameHeader x.1 name) =
      (headers.filter fun x => sameHeader x.1 name).getLast?.or (start.find? fun x => sameHeader x.1 name) := by
  induction headers using List.reverseRecOn with
  | nil => rfl
  | append_singleton headers h ih =>
    rw [List.foldl_append, List.foldl_cons, List.foldl_nil, find?_setHeader, ih, List.filter_append]
    cases hname : sameHeader h.1 name with
    | true => simp [hname]
    | false => simp [hname]

/-- Folding `setHeader` leaves no name twice. -/
theorem pairwise_foldl_setHeader {start : List (String × String)}
    (distinct : start.Pairwise fun a b => sameHeader a.1 b.1 = false) (headers : List (String × String)) :
    (headers.foldl setHeader start).Pairwise fun a b => sameHeader a.1 b.1 = false := by
  induction headers generalizing start with
  | nil => exact distinct
  | cons h rest ih => exact ih (pairwise_setHeader start h distinct)

namespace Outgoing

/-! ## The headers of a request -/

/-- What a header says that the caller does not give. -/
def defaultHeader? (hasBody : Bool) (name : String) : Option String :=
  if sameHeader "Accept" name then some "application/json"
  else if hasBody && sameHeader "Content-Type" name then some "application/json"
  else none

/-- `defaultHeaders` by name: `defaultHeader?`. -/
theorem find?_defaultHeaders (hasBody : Bool) (name : String) :
    ((defaultHeaders hasBody).find? fun x => sameHeader x.1 name).map Prod.snd = defaultHeader? hasBody name := by
  rw [defaultHeaders, defaultHeader?]
  cases hasBody <;> cases haccept : sameHeader "Accept" name <;> cases htype : sameHeader "Content-Type" name <;>
    simp [haccept, htype]

theorem pairwise_defaultHeaders (hasBody : Bool) :
    (defaultHeaders hasBody).Pairwise fun a b => sameHeader a.1 b.1 = false := by
  cases hasBody <;> decide

/-- `bodyText` gives a text exactly if a body other than `null` is given. -/
theorem isSome_bodyText (body : Option Json) : (bodyText body).isSome = true ↔ ∃ v, body = some v ∧ v ≠ .null := by
  cases body with
  | none => simp [bodyText]
  | some v => cases v <;> simp [bodyText]

variable (base : String) (method : Method) (pattern : String) (options : RequestOptions)

/-- `prepare` succeeds exactly if `path` and `query` do. -/
theorem exists_prepare_iff : (∃ request notices, prepare base method pattern options = .ok (request, notices)) ↔
    (∃ p, path pattern options = .ok p) ∧ ∃ q, query options = .ok q := by
  rw [prepare]
  cases path pattern options with
  | error why =>
    constructor
    · rintro ⟨_, _, ⟨⟩⟩
    · rintro ⟨⟨_, ⟨⟩⟩, -⟩
  | ok p =>
    cases query options with
    | error why =>
      constructor
      · rintro ⟨_, _, ⟨⟩⟩
      · rintro ⟨-, _, ⟨⟩⟩
    | ok q => exact ⟨fun _ => ⟨⟨p, rfl⟩, q, rfl⟩, fun _ => ⟨_, _, rfl⟩⟩

/-- `prepare` gives `bodyText` for a method that carries a body, and the headers of the caller set over the defaults. -/
theorem of_prepare {request : Outgoing} {notices : List Notice}
    (h : prepare base method pattern options = .ok (request, notices)) :
    request.body = (if method.carriesBody then bodyText options.body else none) ∧
      request.headers = options.headers.foldl setHeader (defaultHeaders request.body.isSome) := by
  rw [prepare] at h
  cases hpath : path pattern options with
  | error why =>
    rw [hpath] at h
    cases h
  | ok p =>
    cases hquery : query options with
    | error why =>
      rw [hpath, hquery] at h
      cases h
    | ok q =>
      rw [hpath, hquery] at h
      obtain ⟨rfl, -⟩ := Prod.mk.inj (Except.ok.inj h)
      exact ⟨rfl, rfl⟩

/-- **The headers of a request.** `prepare` succeeds whenever `path` and `query` do. The request has a body exactly if
one other than `null` is given and the method carries it. No two of its headers are the `sameHeader`. What a header says
is what the last header of the caller with this name says, or else `defaultHeader?`; and its headers are the defaults
that the caller does not replace, and behind them `lastOfEach` of the caller's. -/
theorem headers_resolved :
    ((∃ request notices, prepare base method pattern options = .ok (request, notices)) ↔
      (∃ p, path pattern options = .ok p) ∧ ∃ q, query options = .ok q) ∧
    ∀ request notices, prepare base method pattern options = .ok (request, notices) →
      (request.body.isSome = true ↔ (∃ v, options.body = some v ∧ v ≠ .null) ∧ method.carriesBody = true) ∧
      (request.headers.Pairwise fun a b => sameHeader a.1 b.1 = false) ∧
      (∀ name, request.header? name =
        ((options.headers.filter fun h => sameHeader h.1 name).getLast?.map Prod.snd).or
          (defaultHeader? request.body.isSome name)) ∧
      request.headers =
        (defaultHeaders request.body.isSome).filter (fun d => !options.headers.any fun h => sameHeader d.1 h.1) ++
          lastOfEach options.headers := by
  refine ⟨exists_prepare_iff base method pattern options, fun request notices h => ?_⟩
  obtain ⟨hbody, hheaders⟩ := of_prepare base method pattern options h
  refine ⟨?_, ?_, fun name => ?_, ?_⟩
  · rw [hbody, ← isSome_bodyText]
    cases method.carriesBody <;> simp
  · rw [hheaders]
    exact pairwise_foldl_setHeader (pairwise_defaultHeaders _) _
  · rw [header?, hheaders, find?_foldl_setHeader, ← find?_defaultHeaders, Option.map_or]
  · rw [hheaders, foldl_setHeader]

/-! ## A new post -/

/-- A post with four headers, two of which are one, and one of which replaces a default. -/
def postOptions : RequestOptions where
  body := some (.bool true)
  routeParams := none
  searchParams := none
  headers := [("X-Trace", "1"), ("ACCEPT", "text/html"), ("x-trace", "2"), ("Lang", "de")]
  timeout := none

/-- The trace is the last one, the accepted type that of the caller, and the type of the body the default. -/
theorem headers_resolved_post :
    ∃ request notices, prepare "http://h" .post "/posts" postOptions = .ok (request, notices) ∧
      request.headers =
        [("Content-Type", "application/json"), ("ACCEPT", "text/html"), ("x-trace", "2"), ("Lang", "de")] ∧
      request.header? "X-TRACE" = some "2" ∧ request.header? "accept" = some "text/html" ∧
      request.header? "content-type" = some "application/json" ∧ request.header? "Host" = none := by
  have hpath : path "/posts" postOptions = .ok "/posts" := by cbv
  have hquery : query postOptions = .ok none := rfl
  obtain ⟨hprepared, hresolved⟩ := headers_resolved "http://h" .post "/posts" postOptions
  obtain ⟨request, notices, hrequest⟩ := hprepared.mpr ⟨⟨_, hpath⟩, _, hquery⟩
  obtain ⟨hbody, -, hheader, hheaders⟩ := hresolved request notices hrequest
  have hsome : request.body.isSome = true := hbody.mpr ⟨⟨.bool true, rfl, Json.noConfusion⟩, rfl⟩
  rw [hsome] at hheader hheaders
  refine ⟨request, notices, hrequest, hheaders.trans (by decide), ?_, ?_, ?_, ?_⟩
  · exact (hheader _).trans (by decide)
  · exact (hheader _).trans (by decide)
  · exact (hheader _).trans (by decide)
  · exact (hheader _).trans (by decide)

end Outgoing

end RouteContracts
