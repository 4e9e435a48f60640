import Mathlib.Data.Option.Basic
import Workflow.Proofs.Url.Extend

/-!
# The address of an execution

A remote engine is told by the address alone which workflow to execute. The address has the name
as its last segment, and decoding the segment gives the name back, unless the name is a dot or two
dots or has a tab or the end of a line in it. The route of a name says what becomes of each: two
names have one address below an engine when they have one route.
-/

namespace Workflow

open Url (kept encodeSegment stem lessSlash Divided)

/-- Whether the name of a workflow can stand in an address. -/
def Carried (name : String) : Prop :=
  name ≠ "." ∧ name ≠ ".." ∧ ∀ c ∈ name.toList, Url.isDropped c = false

/-- Whether `url` asks the engine at `base` to execute the workflow `name`: after the path of the
engine, less one slash at its end, come the segments of executions and one that decodes to the
name. All else is as in `base`. -/
def Url.Executes (base url : Url) (name : String) : Prop :=
  url = { base with path := url.path } ∧
    ∃ segment, '/' ∉ segment ∧ Url.decoded? segment = some name ∧
      url.path.text =
        lessSlash base.path.text ++ "/api/workflow/execute-by-name/".toList ++ segment

namespace Request

/-- The segments that the addresses of all executions share. -/
def executionWords : List String :=
  ["api", "workflow", "execute-by-name"]

/-- The texts of the segments that the address of an execution has after the engine's own. A name
that is a dot or two dots is passed over. One that becomes a dot or two dots when tabs and line
ends are dropped is carried out, here or one up, and leaves an empty segment. -/
def executionRoute (name : String) : List String :=
  if name = "." ∨ name = ".." then executionWords
  else if kept name.toList = ['.', '.'] then ["api", "workflow", ""]
  else if kept name.toList = ['.'] then executionWords ++ [""]
  else executionWords ++ [.ofList (kept name.toList)]

/-! ## Routes -/

theorem executionRoute_of_carried {name : String} (carried : Carried name) :
    executionRoute name = executionWords ++ [name] := by
  obtain ⟨not_here, not_up, plain⟩ := carried
  have whole : kept name.toList = name.toList := Url.kept_eq_self_iff.mpr plain
  have not_dot : name.toList ≠ ['.'] := fun h => not_here (String.toList_injective h)
  have not_dots : name.toList ≠ ['.', '.'] := fun h => not_up (String.toList_injective h)
  rw [executionRoute, if_neg (not_or.mpr ⟨not_here, not_up⟩), whole, if_neg not_dots,
    if_neg not_dot, String.ofList_toList]

/-- Only a name that can stand in an address is the last of its route. -/
theorem carried_of_executionRoute {name : String}
    (route : executionRoute name = executionWords ++ [name]) : Carried name := by
  rw [executionRoute] at route
  split at route
  case isTrue => simp at route
  case isFalse dots =>
    split at route
    case isTrue => simp [executionWords] at route
    case isFalse =>
      split at route
      case isTrue dot =>
        have empty : name = "" := by simpa using route.symm
        rw [empty] at dot
        cases dot
      case isFalse =>
        have whole : kept name.toList = name.toList := by
          simpa [← String.toList_inj] using route
        exact ⟨(not_or.mp dots).1, (not_or.mp dots).2, Url.kept_eq_self_iff.mp whole⟩

theorem kept_of_mem_words :
    ∀ word ∈ "" :: executionWords, kept word.toList = word.toList := by
  decide

/-- Nothing in a route is dropped when it is written. -/
theorem kept_of_mem_executionRoute {name text : String} (h : text ∈ executionRoute name) :
    kept text.toList = text.toList := by
  have route : text ∈ "" :: executionWords ∨ text = .ofList (kept name.toList) := by
    rw [executionRoute] at h
    grind [executionWords]
  obtain word | rfl := route
  · exact kept_of_mem_words text word
  · rw [String.toList_ofList, Url.kept_kept]

/-- The segments of a route as they are written. -/
def written (route : List String) : List (List Char) :=
  route.map fun text => encodeSegment true text.toList

theorem whole_written (route : List String) : ∀ segment ∈ written route, '/' ∉ segment := by
  intro segment mem
  obtain ⟨text, -, rfl⟩ := List.mem_map.mp mem
  exact Url.slash_not_mem_encodeSegment text.toList

/-- What is written of texts of which nothing is dropped decodes to them. -/
theorem decoded?_written (route : List String)
    (plain : ∀ text ∈ route, kept text.toList = text.toList) :
    (written route).map Url.decoded? = route.map some := by
  rw [written, List.map_map]
  apply List.map_congr_left
  intro text mem
  rw [Function.comp_apply, Url.decoded?_encodeSegment, plain text mem, String.ofList_toList]

/-- A route is known by what is written of it. -/
theorem executionRoute_eq_of_written {name other : String}
    (same : written (executionRoute name) = written (executionRoute other)) :
    executionRoute name = executionRoute other := by
  have texts := decoded?_written (executionRoute name) fun _ => kept_of_mem_executionRoute
  rw [same, decoded?_written _ fun _ => kept_of_mem_executionRoute] at texts
  exact (List.map_injective_iff.mpr (Option.some_injective _) texts).symm

/-! ## Addresses -/

section

variable {scheme : List Char}

/-- The words that all executions share are added after the stem of the path. -/
theorem foldl_words (special : isSpecialScheme scheme = true)
    (not_file : isFileScheme scheme = false) (path : List (List Char)) :
    executionWords.foldl
        (fun path segment => Url.appendSegment scheme path segment.toList)
        (Url.dropFinalSlash path) =
      stem path ++ written executionWords := by
  simp only [executionWords, List.foldl_cons, List.foldl_nil]
  rw [Url.appendSegment_word special not_file _ (by decide) (by decide),
    Url.appendSegment_word special not_file _ (by decide) (by decide),
    Url.appendSegment_word special not_file _ (by decide) (by decide),
    Url.opened_append _ (by decide), Url.opened_append _ (by decide), List.append_assoc,
    List.append_assoc]
  rfl

/-- The name is added as its route says. -/
theorem appendSegment_name (special : isSpecialScheme scheme = true)
    (not_file : isFileScheme scheme = false) (front : List (List Char)) (name : String) :
    Url.appendSegment scheme (front ++ written executionWords)
        name.toList = front ++ written (executionRoute name) := by
  have last : front ++ written executionWords =
      (front ++ written ["api", "workflow"]) ++ ["execute-by-name".toList] := by
    rw [List.append_assoc]
    rfl
  have dots : (name = "." ∨ name = "..") ↔ (name.toList = ['.'] ∨ name.toList = ['.', '.']) := by
    simp [← String.toList_inj]
  have text : encodeSegment true (String.ofList (kept name.toList)).toList =
      encodeSegment true name.toList := by
    rw [String.toList_ofList, Url.encodeSegment_kept]
  rw [Url.appendSegment_eq special not_file, executionRoute, if_congr dots rfl rfl, last,
    Url.opened_append _ (by decide), Url.shorten_append _ (by decide)]
  split
  case isTrue => exact last.symm
  case isFalse =>
    split
    case isTrue => exact List.append_assoc ..
    case isFalse =>
      rw [← last]
      split
      case isTrue => exact List.append_assoc ..
      case isFalse =>
        rw [List.append_assoc, ← text]
        rfl

end

/-! ## Requests -/

section

variable {text : String} {base : Url} {path : List (List Char)}

/-- The address of an execution: the stem of the engine's path, then the route of the name. -/
theorem url?_execute (web : base.IsWeb) (base_path : base.path = .segments path) (name : String)
    (context : Json) :
    (execute name context).url? base =
      some { base with path := .segments (stem path ++ written (executionRoute name)) } := by
  have split : "api" :: "workflow" :: (execute name context).pathSegments =
      executionWords ++ [name] := rfl
  rw [url?, Url.below?, base_path, split]
  simp only [List.foldl_append, foldl_words web.special web.not_file, List.foldl_cons,
    List.foldl_nil, appendSegment_name web.special web.not_file, Option.map_some]

theorem toHttp_execute (web : base.IsWeb) (base_path : base.path = .segments path) (name : String)
    (context : Json) :
    (execute name context).toHttp base =
      .ok ⟨.post, { base with path := .segments (stem path ++ written (executionRoute name)) },
        some context.compact⟩ := by
  rw [toHttp, url?_execute web base_path]
  rfl

/-- All that differs between the addresses of two executions is their routes. -/
theorem text_url?_execute_eq_iff (web : base.IsWeb) (base_path : base.path = .segments path)
    (divided : Divided path) (name other : String) (context otherContext : Json) :
    ((execute name context).url? base).map Url.text =
        ((execute other otherContext).url? base).map Url.text ↔
      executionRoute name = executionRoute other := by
  rw [url?_execute web base_path, url?_execute web base_path, Option.map_some, Option.map_some,
    Option.some_inj]
  constructor
  · intro same
    have whole (name : String) :
        ∀ segment ∈ stem path ++ written (executionRoute name), '/' ∉ segment :=
      List.forall_mem_append.mpr ⟨Url.whole_stem divided, whole_written _⟩
    have paths := Path.segments_eq_of_text (whole name) (whole other)
      (Url.path_text_eq_of_text same)
    exact executionRoute_eq_of_written (List.append_cancel_left paths)
  · intro route
    rw [route]

/-- Names that can stand in an address are told apart by it. -/
theorem eq_of_text_url?_execute (web : base.IsWeb) (base_path : base.path = .segments path)
    (divided : Divided path) {name other : String} {context otherContext : Json}
    (carried : Carried name) (other_carried : Carried other)
    (same : ((execute name context).url? base).map Url.text =
      ((execute other otherContext).url? base).map Url.text) : name = other := by
  have route := (text_url?_execute_eq_iff web base_path divided _ _ _ _).mp same
  rw [executionRoute_of_carried carried, executionRoute_of_carried other_carried] at route
  exact List.singleton_inj.mp (List.append_cancel_left route)

/-- The path of executions and one more segment, as they are written. -/
theorem text_words_append (segment : List Char) :
    (Path.segments (written executionWords ++ [segment])).text =
      "/api/workflow/execute-by-name/".toList ++ segment := by
  rw [Path.text_append, Path.text_cons, Path.text_nil, List.append_nil]
  rfl

theorem head?_written_executionRoute (name : String) :
    (written (executionRoute name)).head? = some "api".toList := by
  rw [executionRoute]
  split
  · rfl
  · split
    · rfl
    · split <;> rfl

/-- An address with the words of executions and a segment that decodes to the name has the route
of a name that can stand in an address. -/
theorem carried_of_written {name : String} {segment : List Char}
    (decoded : Url.decoded? segment = some name)
    (route : written (executionRoute name) =
      written executionWords ++ [segment]) : Carried name := by
  have words := decoded?_written executionWords (by decide)
  have texts := decoded?_written (executionRoute name) fun _ => kept_of_mem_executionRoute
  rw [route, List.map_append, words, List.map_singleton, decoded, ← List.map_singleton,
    ← List.map_append] at texts
  apply carried_of_executionRoute
  exact (List.map_injective_iff.mpr (Option.some_injective _) texts).symm

/-- An address asks for the name only if the name can stand in it. From two slashes nothing is left
before the route, where one slash would have to be. -/
theorem carried_of_executes (base_path : base.path = .segments path) (divided : Divided path)
    {name : String} (executes : base.Executes
      { base with path := .segments (stem path ++ written (executionRoute name)) } name) :
    Carried name ∧ path ≠ [[], []] := by
  obtain ⟨-, segment, whole, decoded, text⟩ := executes
  have route_whole := whole_written (executionRoute name)
  have added_whole : ∀ s ∈ written executionWords ++ [segment], '/' ∉ s :=
    List.forall_mem_append.mpr ⟨whole_written _, List.forall_mem_singleton.mpr whole⟩
  rw [base_path, List.append_assoc, ← text_words_append] at text
  by_cases bare : path = [[], []]
  · subst bare
    have route : written (executionRoute name) = [] :: (written executionWords ++ [segment]) :=
      Path.segments_eq_of_text route_whole (by simpa using added_whole) text
    have head := head?_written_executionRoute name
    rw [route] at head
    cases head
  · rw [Path.text_append, Url.text_stem divided bare] at text
    have route := Path.segments_eq_of_text route_whole added_whole (List.append_cancel_left text)
    exact ⟨carried_of_written decoded route, bare⟩

theorem executes_of_carried (base_path : base.path = .segments path) (divided : Divided path)
    {name : String} (carried : Carried name) (not_bare : path ≠ [[], []]) :
    base.Executes { base with path := .segments (stem path ++ written (executionRoute name)) }
      name := by
  refine ⟨rfl, encodeSegment true name.toList, Url.slash_not_mem_encodeSegment _, ?_, ?_⟩
  · rw [Url.decoded?_encodeSegment, Url.kept_eq_self_iff.mpr carried.2.2, String.ofList_toList]
  · rw [executionRoute_of_carried carried, base_path, List.append_assoc, ← text_words_append,
      Path.text_append, Url.text_stem divided not_bare]
    rfl

/-- The address of an execution is the one that asks for it when the name can stand in it and the
engine's path is not two slashes. -/
theorem executes_iff (base_path : base.path = .segments path) (divided : Divided path)
    (name : String) :
    base.Executes { base with path := .segments (stem path ++ written (executionRoute name)) }
        name ↔ Carried name ∧ base.path.text ≠ ['/', '/'] := by
  have slashes : base.path.text ≠ ['/', '/'] ↔ path ≠ [[], []] := by
    rw [base_path, ne_eq, divided.text_eq_slashes_iff]
  rw [slashes]
  exact ⟨carried_of_executes base_path divided,
    fun h => executes_of_carried base_path divided h.1 h.2⟩

/-- Every request is the same to an engine whose path has one slash more at its end, where there was
none. -/
theorem toHttp_slash (web : base.IsWeb) (base_path : base.path = .segments path)
    (divided : Divided path) {slashedText : String} {slashed : Url}
    (read : Url.ofText slashedText = .ok slashed)
    (same : slashed = { base with path := slashed.path })
    (open_end : base.path.text.getLast? ≠ some '/')
    (slash : slashed.path.text = base.path.text ++ ['/']) (request : Request) :
    request.toHttp slashed = request.toHttp base := by
  have slashed_web : slashed.IsWeb := by
    rw [same]
    exact web
  obtain ⟨slashedPath, slashed_path, slashed_divided⟩ :=
    Url.exists_segments_of_ofText read slashed_web
  rw [base_path] at open_end
  rw [slashed_path, base_path] at slash
  rw [Url.eq_append_of_text divided slashed_divided slash] at slashed_path
  have below := Url.below?_slash divided base_path slashed_path same
    (Url.getLast?_ne_of_text divided open_end)
  have address : request.url? slashed = request.url? base := by
    rw [url?, url?, below]
  rw [toHttp, toHttp, address]
  cases found : request.url? base with
  | some url => rfl
  | none => simp [url?, Url.below?, base_path] at found

/-- An engine of the web is asked for an execution at an address that has the name as its last
segment, if the name can stand in an address and the engine's path is not two slashes, and only
then. Two executions have one address exactly when the names have one route, so different names
that can stand in an address never have one. A slash at the end of the engine's address makes no
difference. -/
theorem execution_addresses_workflow {text : String} {base : Url}
    (read : Url.ofText text = .ok base) (web : base.IsWeb) :
    (∀ name context, ∃ url,
      (execute name context).toHttp base = .ok ⟨.post, url, some context.compact⟩ ∧
        (base.Executes url name ↔ Carried name ∧ base.path.text ≠ ['/', '/'])) ∧
    (∀ name other context otherContext,
      (((execute name context).url? base).map Url.text =
          ((execute other otherContext).url? base).map Url.text ↔
        executionRoute name = executionRoute other)) ∧
    (∀ name, Carried name ↔ executionRoute name = executionWords ++ [name]) ∧
    (∀ name other context otherContext, Carried name → Carried other →
      ((execute name context).url? base).map Url.text =
        ((execute other otherContext).url? base).map Url.text → name = other) ∧
    (∀ slashedText slashed, Url.ofText slashedText = .ok slashed →
      slashed = { base with path := slashed.path } → base.path.text.getLast? ≠ some '/' →
      slashed.path.text = base.path.text ++ ['/'] →
      ∀ request : Request, request.toHttp slashed = request.toHttp base) := by
  obtain ⟨path, base_path, divided⟩ := Url.exists_segments_of_ofText read web
  refine ⟨fun name context => ?_, text_url?_execute_eq_iff web base_path divided,
    fun name => ⟨executionRoute_of_carried, carried_of_executionRoute⟩,
    fun _ _ _ _ => eq_of_text_url?_execute web base_path divided,
    fun _ _ => toHttp_slash web base_path divided⟩
  exact ⟨_, toHttp_execute web base_path name context, executes_iff base_path divided name⟩

/-- An engine on this machine. -/
def loopback (path : List (List Char)) : Url :=
  ⟨"http".toList, some ⟨[], [], .ipv4 0x7F000001, some 1⟩, false, .segments path, none, none⟩

/-- A name with a slash and a blank is one segment, below an engine with or without a slash. -/
theorem execution_addresses_workflow_loopback :
    Url.ofText "http://127.0.0.1:1/x" = .ok (loopback ["x".toList]) ∧
      Url.ofText "http://127.0.0.1:1/x/" = .ok (loopback ["x".toList, []]) ∧
      ∃ url, (loopback ["x".toList]).Executes url "orders/daily run" ∧
        (execute "orders/daily run" .null).toHttp (loopback ["x".toList]) =
          .ok ⟨.post, url, some "null"⟩ ∧
        (execute "orders/daily run" .null).toHttp (loopback ["x".toList, []]) =
          .ok ⟨.post, url, some "null"⟩ := by
  have read : Url.ofText "http://127.0.0.1:1/x" = .ok (loopback ["x".toList]) := by rfl
  have slashed : Url.ofText "http://127.0.0.1:1/x/" = .ok (loopback ["x".toList, []]) := by rfl
  have carried : Carried "orders/daily run" := ⟨by decide, by decide, by simp [Url.isDropped]⟩
  obtain ⟨sent, -, -, -, slash⟩ := execution_addresses_workflow read (.inl rfl)
  obtain ⟨url, request, executes⟩ := sent "orders/daily run" .null
  have same := slash _ _ slashed rfl (by decide) (by decide) (execute "orders/daily run" .null)
  exact ⟨read, slashed, url, executes.mpr ⟨carried, by decide⟩, request, same.trans request⟩

/-- A tab in a name is lost: another workflow is asked for. -/
theorem not_every_name_addressed :
    Url.ofText "http://127.0.0.1:1" = .ok (loopback [[]]) ∧
      ∃ url, (execute "a\tb" .null).url? (loopback [[]]) = some url ∧
        (execute "ab" .null).url? (loopback [[]]) = some url ∧
        ¬(loopback [[]]).Executes url "a\tb" ∧ (loopback [[]]).Executes url "ab" := by
  have read : Url.ofText "http://127.0.0.1:1" = .ok (loopback [[]]) := by rfl
  have web : (loopback [[]]).IsWeb := .inl rfl
  have divided : Divided [[]] := ⟨by decide, by decide⟩
  have route : executionRoute "a\tb" = executionRoute "ab" := by decide
  have tab : ¬Carried "a\tb" := fun carried => by
    have lost := executionRoute_of_carried carried
    rw [route] at lost
    revert lost
    decide
  have plain : Carried "ab" := ⟨by decide, by decide, by simp [Url.isDropped]⟩
  refine ⟨read, _, url?_execute web rfl "a\tb" .null, ?_, ?_, ?_⟩
  · rw [route]
    exact url?_execute web rfl "ab" .null
  · exact fun executes => tab ((executes_iff rfl divided "a\tb").mp executes).1
  · rw [route]
    exact (executes_iff rfl divided "ab").mpr ⟨plain, by decide⟩

end

end Request

end Workflow
