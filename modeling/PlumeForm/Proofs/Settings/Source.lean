import PlumeForm.Settings.Loader
import PlumeForm.Proofs.Text.Splitting
import Mathlib.Data.List.TakeDrop

/-!
# The file that a path means

Where there is a file at a path that ends in `.toml`, the path means this file, unless all of its
last name is `.toml`: such a name has no extension, so no format is known for it
(`file?_toml_of_isFile`). Where there is no file at the path, the path means the file whose name has
one more extension, if there is just one (`file?_toml_of_only`).
-/

namespace PlumeForm

namespace Files

/-- A name of at least three characters leads somewhere, and not up. -/
theorem isName_of_long {name : String} (h : 3 ≤ name.toList.length) :
    isStay name = false ∧ name ≠ ".." := by
  constructor
  · rw [Bool.eq_false_iff]
    intro hstay
    have hshort : name = "" ∨ name = "." := by simpa [isStay] using hstay
    rcases hshort with rfl | rfl
    · exact absurd h (by decide)
    · exact absurd h (by decide)
  · rintro rfl
    exact absurd h (by decide)

/-- The last name on a path that ends in `.toml` ends so too. -/
theorem exists_lastName?_toml (stem : String) :
    ∃ start, lastName? (stem ++ ".toml") = some (start ++ ['.', 't', 'o', 'm', 'l']) := by
  obtain ⟨pieces, start, -, hsplit⟩ := Text.exists_splitOn_append stem.toList
    ['.', 't', 'o', 'm', 'l'] (show '/' ∉ _ by decide)
  obtain ⟨name, hname⟩ : ∃ name, name = String.ofList (start ++ ['.', 't', 'o', 'm', 'l']) :=
    ⟨_, rfl⟩
  have hlong : 3 ≤ name.toList.length := by
    rw [hname, String.toList_ofList, List.length_append]
    exact Nat.le_add_left_of_le (by decide)
  obtain ⟨hstay, hup⟩ := isName_of_long hlong
  have hnames : names (stem ++ ".toml") = pieces.map String.ofList ++ [name] := by
    rw [names, String.toList_append, hname]
    exact (congrArg (List.map String.ofList) hsplit).trans List.map_append
  have hlast : ((names (stem ++ ".toml")).filter fun n => !isStay n).getLast? = some name := by
    rw [hnames, List.filter_append, List.filter_cons, hstay]
    exact List.getLast?_concat
  refine ⟨start, ?_⟩
  rw [lastName?, hlast]
  dsimp only
  rw [if_neg hup, hname, String.toList_ofList]

theorem extension?_toml (stem : String) :
    extension? (stem ++ ".toml") =
      if lastName? (stem ++ ".toml") = some ".toml".toList then none else some "toml" := by
  obtain ⟨start, hlast⟩ := exists_lastName?_toml stem
  have hback : (start ++ ['.', 't', 'o', 'm', 'l']).reverse.span (· ≠ '.') =
      (['l', 'm', 'o', 't'], '.' :: start.reverse) := by
    rw [List.reverse_append, List.span_eq_takeWhile_dropWhile]
    rfl
  have hstart : start ++ ['.', 't', 'o', 'm', 'l'] = ".toml".toList ↔ start = [] :=
    List.append_left_eq_self
  rw [extension?, hlast]
  dsimp only
  rw [hback]
  simp only [Option.some.injEq, hstart]
  cases hrev : start.reverse with
  | nil => rw [if_pos (List.reverse_eq_nil_iff.1 hrev)]
  | cons c cs =>
    rw [if_neg]
    · rfl
    · rintro rfl
      cases hrev

end Files

namespace Settings

theorem upToName_toml (stem : String) : upToName (stem ++ ".toml") = stem ++ ".toml" := by
  have hback : (stem ++ ".toml").toList.reverse =
      'l' :: 'm' :: 'o' :: 't' :: '.' :: stem.toList.reverse := by
    rw [String.toList_append, List.reverse_append]
    rfl
  have hstays : dropStays (stem ++ ".toml").toList.reverse = (stem ++ ".toml").toList.reverse := by
    rw [hback]
    rfl
  rw [upToName, hstays, List.reverse_reverse, String.ofList_toList]

section

variable {files : Files} {stem : String}

/-- Where there is a file at a path that ends in `.toml`, the path means no other file. -/
theorem file?_toml_of_isFile (h : files.isFile (stem ++ ".toml") = true) :
    file? files (stem ++ ".toml") =
      if Files.lastName? (stem ++ ".toml") = some ".toml".toList then none
      else some (stem ++ ".toml", .toml) := by
  rw [file?, if_pos h, Files.extension?_toml]
  split <;> rfl

/-- Where there is none, the files with one more extension are tried. -/
theorem file?_toml_of_not_isFile (h : files.isFile (stem ++ ".toml") = false) :
    file? files (stem ++ ".toml") =
      (SettingsFormat.byExtension.find? fun e => files.isFile (stem ++ ".toml" ++ "." ++ e.1)).map
        fun e => (stem ++ ".toml" ++ "." ++ e.1, e.2) := by
  obtain ⟨start, hlast⟩ := Files.exists_lastName?_toml stem
  have hname : (Files.lastName? (stem ++ ".toml")).isNone = false := by rw [hlast]; rfl
  rw [file?, h, hname, filesNamed, upToName_toml]
  exact List.find?_map

end

/-- Of the files that have the name and one more extension, there is just this one. -/
structure OnlyFile (files : Files) (name : String) (e : String × SettingsFormat) : Prop where
  mem : e ∈ SettingsFormat.byExtension
  isFile : files.isFile (name ++ "." ++ e.1) = true
  only : ∀ e' ∈ SettingsFormat.byExtension, files.isFile (name ++ "." ++ e'.1) = true → e' = e

theorem file?_toml_of_only {files : Files} {stem : String} {e : String × SettingsFormat}
    (h : files.isFile (stem ++ ".toml") = false) (honly : OnlyFile files (stem ++ ".toml") e) :
    file? files (stem ++ ".toml") = some (stem ++ ".toml" ++ "." ++ e.1, e.2) := by
  rw [file?_toml_of_not_isFile h]
  cases hfound : SettingsFormat.byExtension.find? fun e =>
      files.isFile (stem ++ ".toml" ++ "." ++ e.1) with
  | none => exact absurd honly.isFile (List.find?_eq_none.1 hfound e honly.mem)
  | some found =>
    have hfile : files.isFile (stem ++ ".toml" ++ "." ++ found.1) = true := by
      simpa using List.find?_some hfound
    rw [honly.only found (List.mem_of_find?_eq_some hfound) hfile]
    rfl

theorem file?_toml_of_none {files : Files} {stem : String}
    (h : files.isFile (stem ++ ".toml") = false)
    (hnone : ∀ e ∈ SettingsFormat.byExtension,
      files.isFile (stem ++ ".toml" ++ "." ++ e.1) = false) :
    file? files (stem ++ ".toml") = none := by
  rw [file?_toml_of_not_isFile h, List.find?_eq_none.2 fun e he => by simp [hnone e he]]
  rfl

theorem fileKeys_of_read? {files : Files} {path found : String} {format : SettingsFormat}
    {bytes : ByteArray} {keys : SettingsTree.Members}
    (hfile : file? files path = some (found, format)) (hbytes : files.bytes? found = some bytes)
    (hread : format.read? (Text.Utf8.textOf bytes) = some keys) :
    fileKeys files path = .ok keys := by
  rw [fileKeys, hfile]
  dsimp only
  rw [hbytes]
  dsimp only
  rw [hread]

end Settings

end PlumeForm
