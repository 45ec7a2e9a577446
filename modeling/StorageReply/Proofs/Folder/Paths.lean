import StorageReply.Config.SettingsFile
import StorageReply.Proofs.Text.Blanks

/-!
# Paths and their texts

The text of a path denotes the path (`ofText_text_ofText`): what was read from a text once is read
from the text of the path again. So a settings file is found under the text of its path as well
(`Folder.settings_text`).

The ending of a path that settings can be read from tells that the path ends in a name, and not in
a step to a folder; in a folder without files it leads nowhere (`Folder.settings_empty`).
-/

namespace StorageReply

open Text

namespace Text

/-- Pieces that were joined with a separator, which none of them holds, are found again. -/
theorem pieces_joined {sep : Char} {parts : List (List Char)} (hne : parts ≠ [])
    (h : ∀ part ∈ parts, sep ∉ part) : pieces sep (joined [sep] parts) = parts := by
  induction parts with
  | nil => exact absurd rfl hne
  | cons part rest ih =>
    have hpart : sep ∉ part := h part (List.mem_cons_self ..)
    cases rest with
    | nil => exact pieces_eq_singleton hpart
    | cons next rest =>
      have hrest := ih (by simp) fun q hq => h q (List.mem_cons_of_mem _ hq)
      have hjoined : joined [sep] (part :: next :: rest)
          = part ++ sep :: joined [sep] (next :: rest) := by
        simp [joined]
      rw [hjoined, pieces_append_cons, pieces_eq_singleton hpart, hrest]
      rfl

end Text

namespace Path

/-- A name on the way to a file. -/
def IsName (name : String) : Prop := name ≠ "" ∧ name ≠ "." ∧ '/' ∉ name.toList

theorem isName_of_mem_names {s name : String} (h : name ∈ names s) : IsName name := by
  obtain ⟨hmem, hkept⟩ := List.mem_filter.1 h
  obtain ⟨piece, hpiece, rfl⟩ := List.mem_map.1 hmem
  have hslash : '/' ∉ (String.ofList piece).toList := by
    rw [String.toList_ofList]
    exact mem_pieces hpiece
  simp only [bne_iff_ne, Bool.and_eq_true] at hkept
  exact ⟨hkept.1, hkept.2, hslash⟩

theorem toList_joinedStrings (parts : List String) :
    (joinedStrings "/" parts).toList = joined ['/'] (parts.map String.toList) := by
  rw [joinedStrings, String.toList_ofList]
  rfl

/-- The names of a path are those in its text. -/
theorem names_joinedStrings {parts : List String} (h : ∀ name ∈ parts, IsName name) :
    names (joinedStrings "/" parts) = parts := by
  cases hp : parts with
  | nil => rfl
  | cons first rest =>
    rw [← hp]
    have hpieces : pieces '/' (joined ['/'] (parts.map String.toList))
        = parts.map String.toList := by
      refine pieces_joined (by simp [hp]) fun part hpart => ?_
      obtain ⟨name, hname, rfl⟩ := List.mem_map.1 hpart
      exact (h name hname).2.2
    have hmap : (parts.map String.toList).map String.ofList = parts := by
      rw [List.map_map]
      exact List.map_id'' (fun name => String.ofList_toList) parts
    rw [names, toList_joinedStrings, hpieces, hmap, List.filter_eq_self]
    intro name hname
    simpa using ⟨(h name hname).1, (h name hname).2.1⟩

theorem names_cons_slash (s : List Char) :
    names (String.ofList ('/' :: s)) = names (String.ofList s) := by
  simp [names, pieces]

/-- A text of names does not begin at the root. -/
theorem startsWith_joinedStrings {name : String} {rest : List String} (h : IsName name) :
    (joinedStrings "/" (name :: rest)).startsWith "/" = false := by
  rw [Bool.eq_false_iff]
  intro hstart
  obtain ⟨c, cs, hc⟩ := List.exists_cons_of_ne_nil
    (fun hnil => h.1 (String.toList_eq_nil_iff.1 hnil))
  rw [String.startsWith_string_iff, toList_joinedStrings, List.map_cons, hc] at hstart
  have hslash : '/' = c := by
    cases rest with
    | nil => simpa [joined] using hstart
    | cons next rest => simpa [joined] using hstart
  exact h.2.2 (by rw [hc, hslash]; exact List.mem_cons_self ..)

/-- The text of a path denotes the path. -/
theorem ofText_text_ofText (s : String) : ofText (text (ofText s)) = ofText s := by
  have hnames : ∀ name ∈ names s, IsName name := fun _ => isName_of_mem_names
  cases hs : s.startsWith "/" with
  | true =>
    have hpath : ofText s = rootMark :: names s := if_pos hs
    have htext : text (rootMark :: names s)
        = String.ofList ('/' :: (joinedStrings "/" (names s)).toList) := by
      rw [← String.toList_inj, String.toList_ofList]
      simp [text, rootMark]
    have hstart : (String.ofList ('/' :: (joinedStrings "/" (names s)).toList)).startsWith "/"
        = true := by
      rw [String.startsWith_string_iff, String.toList_ofList]
      simp
    rw [hpath, htext, ofText, if_pos hstart, names_cons_slash, String.ofList_toList,
      names_joinedStrings hnames]
  | false =>
    have hpath : ofText s = names s := if_neg (by simp [hs])
    rw [hpath]
    cases hn : names s with
    | nil => decide +kernel
    | cons name rest =>
      have hname : IsName name := hnames name (by simp [hn])
      have hroot : (name == rootMark) = false := by
        rw [beq_eq_false_iff_ne]
        rintro rfl
        exact hname.2.2 (by decide)
      have htext : text (name :: rest) = joinedStrings "/" (name :: rest) := by
        rw [text, hroot, if_neg (by simp)]
      rw [htext, ofText, startsWith_joinedStrings hname, if_neg (by simp),
        names_joinedStrings (by rwa [← hn])]

/-! ## Endings -/

/-- A path with an ending has a last name, which is neither a step back nor the root. -/
theorem exists_of_ending_ne {p : Path} (h : ending p ≠ "") :
    ∃ before name, p = before ++ [name] ∧ name ≠ ".." ∧ name ≠ rootMark := by
  rcases List.eq_nil_or_concat p with rfl | ⟨before, name, rfl⟩
  · exact absurd (by decide) h
  · refine ⟨before, name, List.concat_eq_append, ?_, ?_⟩
    · rintro rfl
      simp only [ending, List.concat_eq_append, List.getLastD_concat] at h
      exact h (by decide)
    · rintro rfl
      simp only [ending, List.concat_eq_append, List.getLastD_concat] at h
      exact h (by decide)

end Path

namespace Folder

/-- A settings file is found under the text of its path as well. -/
theorem settings_text {f : Folder} {path : String} {v : Value} (h : f.settings path = .ok v) :
    f.settings (Path.text (Path.ofText path)) = .ok v := by
  rw [settings] at h ⊢
  rw [Path.ofText_text_ofText]
  cases hf : f.find (Path.ofText path) with
  | none => simp [hf] at h
  | some place => simpa [hf] using h

/-- Settings are read from paths with one of the known endings. -/
theorem ofEnding?_of_settings {f : Folder} {path : String} {v : Value}
    (h : f.settings path = .ok v) :
    (FileFormat.ofEnding? (Path.ending (Path.ofText path))).isSome = true := by
  rw [settings] at h
  split at h
  · simp at h
  · split at h
    · simp at h
    · dsimp only at h
      split at h
      · rename_i hformat
        rw [hformat]
        rfl
      · simp at h

/-- In a folder without files a path to a name leads nowhere. -/
theorem findFrom_empty {here : Path} {names : List String} {name : String}
    (hback : name ≠ "..") {place : Path}
    (h : empty.findFrom here (names ++ [name]) = some place) :
    ∃ before, place = before ++ [name] := by
  induction names generalizing here with
  | nil =>
    have hne : (name == "..") = false := by simpa using hback
    simp [findFrom, hne] at h
    exact ⟨here, h.symm⟩
  | cons first rest ih =>
    rw [List.cons_append, findFrom] at h
    split at h
    · split at h
      · simp at h
      · exact ih h
    · split at h
      · rename_i hempty
        simp at hempty
      · split at h
        · exact ih h
        · simp at h

theorem find_empty {p : Path} (h : p.ending ≠ "") : empty.find p = none := by
  obtain ⟨before, name, rfl, hback, hroot⟩ := Path.exists_of_ending_ne h
  rw [find]
  cases hf : empty.findFrom [] (before ++ [name]) with
  | none => rfl
  | some place =>
    obtain ⟨above, rfl⟩ := findFrom_empty hback hf
    have hfile : empty.isFile (above ++ [name]) = false := rfl
    have hfolder : empty.isFolder (above ++ [name]) = false := by
      have hall : (above ++ [name]).all (· == "..") = false := by simp [hback]
      have hmark : (above ++ [name] == [Path.rootMark]) = false := by
        cases above <;> simp [hroot]
      rw [isFolder, hall, hmark]
      rfl
    rw [Option.filter_some, hfile, hfolder]
    rfl

/-- In a folder without files no settings file is there. -/
theorem settings_empty {path : String}
    (h : (FileFormat.ofEnding? (Path.ending (Path.ofText path))).isSome = true) :
    empty.settings path = .error (.fileMissing path) := by
  have hending : Path.ending (Path.ofText path) ≠ "" := by
    intro hnone
    rw [hnone] at h
    exact absurd h (by decide)
  rw [settings, find_empty hending]

end Folder

end StorageReply
