import Workflow.Proofs.Success
import Workflow.Proofs.Text.Percent
import Workflow.Url.Read

/-!
# The paths of addresses

A path is known by its text as long as no segment of it has a slash. The path of an address of the
web that was read is such a path, and it has at least one segment.
-/

namespace Workflow

/-! ## Paths and their texts -/

namespace Path

@[simp] theorem text_nil : (segments []).text = [] := rfl

@[simp] theorem text_cons (segment : List Char) (path : List (List Char)) :
    (segments (segment :: path)).text = '/' :: (segment ++ (segments path).text) := rfl

@[simp] theorem text_append (path more : List (List Char)) :
    (segments (path ++ more)).text = (segments path).text ++ (segments more).text :=
  List.flatMap_append

/-- Up to the next slash stands one segment. -/
theorem takeWhile_text {segment : List Char} (whole : '/' ∉ segment) (path : List (List Char)) :
    (segment ++ (segments path).text).takeWhile (· ≠ '/') = segment := by
  have inside : ∀ c ∈ segment, decide (c ≠ '/') = true := fun c c_mem => by
    simp only [ne_eq, decide_eq_true_eq]
    rintro rfl
    exact whole c_mem
  rw [List.takeWhile_append_of_pos inside]
  cases path <;> simp

/-- The text of a path tells its segments. -/
theorem segments_eq_of_text {path other : List (List Char)}
    (whole : ∀ segment ∈ path, '/' ∉ segment) (other_whole : ∀ segment ∈ other, '/' ∉ segment)
    (same : (segments path).text = (segments other).text) : path = other := by
  induction path generalizing other with
  | nil =>
      cases other with
      | nil => rfl
      | cons => simp at same
  | cons segment path ih =>
      cases other with
      | nil => simp at same
      | cons otherSegment other =>
          simp only [text_cons, List.cons.injEq, true_and] at same
          have first : segment = otherSegment := by
            rw [← takeWhile_text (whole _ List.mem_cons_self) path, same,
              takeWhile_text (other_whole _ List.mem_cons_self) other]
          subst first
          rw [ih (fun s hs => whole s (List.mem_cons_of_mem _ hs))
            (fun s hs => other_whole s (List.mem_cons_of_mem _ hs)) (List.append_cancel_left same)]

end Path

namespace Url

/-- Whether an address is of the web. -/
def IsWeb (url : Url) : Prop :=
  url.scheme = "http".toList ∨ url.scheme = "https".toList

theorem IsWeb.special {url : Url} (web : url.IsWeb) : isSpecialScheme url.scheme = true := by
  obtain scheme | scheme := web <;> rw [scheme] <;> decide

theorem IsWeb.not_file {url : Url} (web : url.IsWeb) : isFileScheme url.scheme = false := by
  obtain scheme | scheme := web <;> rw [scheme] <;> decide

/-- The text of an address tells the text of its path, all else being known. -/
theorem path_text_eq_of_text {url : Url} {path other : Path}
    (same : ({ url with path := path } : Url).text = ({ url with path := other } : Url).text) :
    path.text = other.text :=
  List.append_cancel_left
    (List.append_cancel_right (List.append_cancel_right (String.ofList_injective same)))

/-! ## Paths that were read -/

/-- What the path of an address with a host has: a segment, and no slash inside a segment. -/
structure Divided (path : List (List Char)) : Prop where
  ne_nil : path ≠ []
  whole : ∀ segment ∈ path, '/' ∉ segment

variable {file final : Bool} {path : List (List Char)} {segment : List Char}

theorem mem_of_mem_shorten (h : segment ∈ shorten path) : segment ∈ path := by
  rw [shorten] at h
  split at h
  · exact h
  · exact List.dropLast_subset path h

/-- One more segment is itself without a slash, or it is empty, or the drive of a file. -/
theorem whole_addSegment (path_whole : ∀ s ∈ path, '/' ∉ s) (whole : '/' ∉ segment) :
    ∀ s ∈ addSegment file final path segment, '/' ∉ s := by
  have empty : ∀ s ∈ (if final then [([] : List Char)] else []), '/' ∉ s := by
    cases final <;> simp
  rw [addSegment]
  split
  · exact List.forall_mem_append.mpr ⟨fun s mem => path_whole s (mem_of_mem_shorten mem), empty⟩
  · split
    · exact List.forall_mem_append.mpr ⟨path_whole, empty⟩
    · split
      · have letter : '/' ∉ segment.take 1 := fun h => whole (List.mem_of_mem_take h)
        simp [letter]
      · exact List.forall_mem_append.mpr ⟨path_whole, List.forall_mem_singleton.mpr whole⟩

theorem whole_addSegments {added : List (List Char)} (path_whole : ∀ s ∈ path, '/' ∉ s)
    (whole : ∀ s ∈ added, '/' ∉ s) : ∀ s ∈ addSegments file path added, '/' ∉ s := by
  induction path, added using addSegments.induct file with
  | case1 path => exact path_whole
  | case2 path segment => exact whole_addSegment path_whole (whole _ List.mem_cons_self)
  | case3 path segment next rest ih =>
      exact ih (whole_addSegment path_whole (whole _ List.mem_cons_self))
        fun s s_mem => whole s (List.mem_cons_of_mem _ s_mem)

/-- What a path ends with is a segment or the empty segment after a slash. -/
theorem addSegment_ne_nil : addSegment file true path segment ≠ [] := by
  rw [addSegment]
  split
  · simp
  · split
    · simp
    · split <;> simp

theorem addSegments_ne_nil {added : List (List Char)} (some_added : added ≠ []) :
    addSegments file path added ≠ [] := by
  induction path, added using addSegments.induct file with
  | case1 path => exact absurd rfl some_added
  | case2 path segment => exact addSegment_ne_nil
  | case3 path segment next rest ih => exact ih (by simp)

/-- Text split at separators has none left in its parts. -/
theorem separator_not_mem {p : Char → Bool} {c : Char} (separates : p c = true)
    (text : List Char) : ∀ part ∈ text.splitOnP p, c ∉ part := by
  induction text with
  | nil => simp
  | cons a text ih =>
      rw [List.splitOnP_cons_eq_if_modifyHead]
      split
      case isTrue => simpa using ih
      case isFalse other =>
        have differs : c ≠ a := by
          rintro rfl
          exact other separates
        obtain ⟨first, parts, split⟩ := List.exists_cons_of_ne_nil (List.splitOnP_ne_nil p text)
        rw [split] at ih ⊢
        intro part part_mem
        obtain rfl | part_mem := List.mem_cons.mp part_mem
        · simp [differs, ih first]
        · exact ih part (List.mem_cons_of_mem _ part_mem)

theorem divided_readSegments (scheme text : List Char) : Divided (readSegments scheme text) where
  ne_nil := addSegments_ne_nil (by simp)
  whole := by
    apply whole_addSegments (by simp)
    intro s s_mem
    obtain ⟨part, part_mem, rfl⟩ := List.mem_map.mp s_mem
    have no_slash : '/' ∉ part := separator_not_mem (by simp [isSlash]) text part part_mem
    exact Percent.slash_not_mem_encode (.inr no_slash)

/-- The path after the host of an address with rules of its own is divided. -/
theorem exists_readPathAfterHost {scheme : List Char} (special : isSpecialScheme scheme = true)
    (text : List Char) :
    ∃ path, readPathAfterHost scheme text = .segments path ∧ Divided path := by
  cases text with
  | nil => exact ⟨[[]], by simp [readPathAfterHost, special], by simp, by simp⟩
  | cons c rest => exact ⟨_, rfl, divided_readSegments scheme _⟩

theorem readHierarchy_of_special {scheme : List Char} (special : isSpecialScheme scheme = true)
    (not_file : isFileScheme scheme = false) (text : List Char) (last : Bool) :
    readHierarchy scheme text last =
      readHostAndPath scheme (text.dropWhile (isSlash true)) last := by
  simp [readHierarchy, special, not_file]

/-- Only the path of two empty segments is written as two slashes. -/
theorem Divided.text_eq_slashes_iff {path : List (List Char)} (divided : Divided path) :
    (Path.segments path).text = ['/', '/'] ↔ path = [[], []] := by
  constructor
  · intro text
    have empty : ∀ segment ∈ [([] : List Char), []], '/' ∉ segment := by simp
    exact Path.segments_eq_of_text divided.whole empty text
  · rintro rfl
    rfl

/-- What is read with a host has a divided path, if its scheme has rules of its own. -/
theorem exists_segments_of_readHostAndPath {scheme text : List Char} {last : Bool}
    {authority : Option Authority} {path : Path} (special : isSpecialScheme scheme = true)
    (read : readHostAndPath scheme text last = .ok (authority, path)) :
    ∃ parts, path = .segments parts ∧ Divided parts := by
  obtain ⟨⟨_, rest⟩, -, result⟩ := Except.bind_eq_ok_iff.mp read
  cases result
  exact exists_readPathAfterHost special _

/-- An address of the web that was read has a divided path. -/
theorem exists_segments_of_ofText {text : String} {url : Url} (read : ofText text = .ok url)
    (web : url.IsWeb) : ∃ path, url.path = .segments path ∧ Divided path := by
  rw [ofText] at read
  split at read
  case h_1 => cases read
  case h_2 scheme rest _ =>
    obtain ⟨⟨authority, path⟩, hierarchy, result⟩ := Except.bind_eq_ok_iff.mp read
    cases result
    rw [readHierarchy_of_special web.special web.not_file] at hierarchy
    exact exists_segments_of_readHostAndPath web.special hierarchy

end Url

end Workflow
