import OnnxForge.Network.Run
import OnnxForge.Proofs.Network.Compilation
import OnnxForge.Proofs.Outcomes
import OnnxForge.Proofs.Path
import OnnxForge.Proofs.Table
import OnnxForge.Proofs.Text.Quoted

/-!
# Files of runs

A run writes the code of a model to a file that is named for the stem of the model. The
extension of the code takes the place of one that the stem may end in, so the code is found
under the stem exactly if the stem ends in none.
-/

namespace OnnxForge

/-! ## Files that are written -/

section Written

variable {directory : Directory} {files : List (String × Contents)} {name : String}
  {contents : Contents}

theorem write_append (directory : Directory) (files : List (String × Contents))
    (last : String × Contents) :
    directory.write (files ++ [last]) = (directory.write files).insert last.1 last.2 := by
  rw [Directory.write, List.foldl_append]
  rfl

/-- A file holds what is written to it, if nothing else is. -/
theorem get?_write_of_mem (member : (name, contents) ∈ files)
    (only : ∀ other, (name, other) ∈ files → other = contents) :
    (directory.write files).get? name = some contents := by
  induction files using List.reverseRecOn with
  | nil => cases member
  | append_singleton earlier last ih =>
      rw [write_append, Table.get?_insert]
      split
      next same =>
        have isLast : (name, last.2) ∈ earlier ++ [last] := by simp [same]
        rw [only last.2 isLast]
      next different =>
        rcases List.mem_append.mp member with before | isLast
        · exact ih before fun other also => only other (List.mem_append_left _ also)
        · cases List.mem_singleton.mp isLast
          exact (different rfl).elim

/-- A file holds what is written to it, or what it held before. -/
theorem mem_of_get?_write (found : (directory.write files).get? name = some contents) :
    (name, contents) ∈ files ∨ directory.get? name = some contents := by
  induction files using List.reverseRecOn with
  | nil => exact .inr found
  | append_singleton earlier last ih =>
      rw [write_append, Table.get?_insert] at found
      split at found
      next same =>
        cases found
        exact .inl (by simp [same])
      next => exact (ih found).imp_left (List.mem_append_left _)

end Written

namespace Network.Run

variable {run : Run} {read : String → Option Bytes} {directory : String} {embeddings : Embeddings}
  {model stem : String} {code : Contents}

/-! ## Files of one model -/

/-- The code that is made of a model, which has that stem. -/
structure Makes (run : Run) (read : String → Option Bytes) (model stem : String)
    (code : Contents) : Prop where
  stem : Path.stem? model = some stem
  made : ∃ embeddings graph network, run.allEmbeddings = .ok embeddings ∧
    Graph.ofFile (read model) = .ok graph ∧
    ofGraph ⟨graph, embeddings⟩ .standard = .ok network ∧
    code = .code (firstLine model) (network.code .plain)

/-- There is one code of a model. -/
theorem Makes.unique {other : String} {another : Contents} (makes : run.Makes read model stem code)
    (also : run.Makes read model other another) : code = another := by
  rcases makes.made with ⟨embeddings, graph, network, configured, parsed, generated, same⟩
  rcases also.made with ⟨_, _, _, alsoConfigured, alsoParsed, alsoGenerated, alsoSame⟩
  cases configured.symm.trans alsoConfigured
  cases parsed.symm.trans alsoParsed
  cases generated.symm.trans alsoGenerated
  exact same.trans alsoSame.symm

theorem firstLine_injective {first second : String} (same : firstLine first = firstLine second) :
    first = second := by
  unfold firstLine at same
  have withoutEnd := (String.append_left_inj _).mp same
  exact Text.quoted_injective ((String.append_right_inj _).mp withoutEnd)

/-- The code tells its model. -/
theorem Makes.model_eq {other another : String} (makes : run.Makes read model stem code)
    (also : run.Makes read other another code) : model = other := by
  rcases makes.made with ⟨_, _, _, _, _, _, same⟩
  rcases also.made with ⟨_, _, _, _, _, _, alsoSame⟩
  have both := same.symm.trans alsoSame
  rw [Contents.code.injEq] at both
  exact firstLine_injective both.1

theorem fileAt_eq_ok {path extension : String} {contents : Contents} {file : String × Contents} :
    fileAt path extension contents = .ok file ↔
      Path.withExtension? path extension = some file.1 ∧ contents = file.2 := by
  rw [fileAt]
  cases Path.withExtension? path extension with
  | none => simp
  | some found => simp [Prod.ext_iff]

/-- A file that is named by a stem lies in the directory, unless the stem is a single dot. -/
theorem nameIn?_of_fileAt {extension : String} {contents : Contents} {file : String × Contents}
    (hasStem : Path.stem? model = some stem) (free : '/' ∉ extension.toList)
    (long : 2 ≤ extension.toList.length)
    (found : fileAt (Path.join directory stem) extension contents = .ok file) :
    Path.nameIn? directory file.1 =
        (if stem = "." then none else some (Path.stemOf stem ++ "." ++ extension)) ∧
      file.2 = contents := by
  have ⟨extended, same⟩ := fileAt_eq_ok.mp found
  refine ⟨?_, same.symm⟩
  split
  next dot =>
    rw [dot] at extended
    exact Path.nameIn?_dot free long extended
  next notDot =>
    have notUp : stem ≠ ".." := by
      rintro rfl
      cases Path.withExtension?_up.symm.trans extended
    have isName := Path.isName_of_stem?_eq_some hasStem notDot notUp
    have isFile := Path.isName_extended (Path.free_stemOf isName.free) free long
    rw [Path.withExtension?_join isName, Option.some.injEq] at extended
    rw [← extended]
    exact Path.nameIn?_append isFile

/-- The name and the contents of a file that lies in the directory. -/
def placed? (directory : String) (file : String × Contents) : Option (String × Contents) :=
  (Path.nameIn? directory file.1).map fun name => (name, file.2)

/-- The files of a model that lie in the directory: its code, and perhaps a listing. -/
structure Places (run : Run) (read : String → Option Bytes) (model stem : String)
    (code : Contents) (placed : List (String × Contents)) : Prop where
  makes : run.Makes read model stem code
  mem : stem ≠ "." → (Path.stemOf stem ++ "." ++ "rs", code) ∈ placed
  only : ∀ file ∈ placed, stem ≠ "." ∧ (file = (Path.stemOf stem ++ "." ++ "rs", code) ∨
    file.1 = Path.stemOf stem ++ "." ++ "graph.txt")

/-- The files of a model are its code, and a listing in development. -/
theorem of_filesOf_eq_ok {files : List (String × Contents)}
    (found : run.filesOf embeddings directory read model = .ok files) :
    ∃ stem graph network listings file, Path.stem? model = some stem ∧
      Graph.ofFile (read model) = .ok graph ∧ ofGraph ⟨graph, embeddings⟩ .standard = .ok network ∧
      fileAt (Path.join directory stem) "rs" (.code (firstLine model) (network.code .plain)) =
        .ok file ∧
      (∀ listing ∈ listings,
        fileAt (Path.join directory stem) "graph.txt" (.listing graph.lines) = .ok listing) ∧
      files = listings ++ [file] := by
  rw [filesOf] at found
  cases hasStem : Path.stem? model with
  | none => simp [hasStem] at found
  | some stem =>
      simp only [hasStem] at found
      rcases Attempt.outcome_bind_eq_ok.mp found with ⟨graph, parsed, listing⟩
      have readable := mapError_eq_ok.mp parsed
      have finished : ∀ {listings}, (do
            let network ← networkOf embeddings graph
            return listings ++ [← fileAt (Path.join directory stem) "rs"
              (.code (firstLine model) (network.code .plain))]) = .ok files →
          ∃ network file, ofGraph ⟨graph, embeddings⟩ .standard = .ok network ∧
            fileAt (Path.join directory stem) "rs"
              (.code (firstLine model) (network.code .plain)) = .ok file ∧
            files = listings ++ [file] := by
        intro listings rest
        rcases Attempt.outcome_bind_eq_ok.mp rest with ⟨network, generated, writing⟩
        rcases Attempt.outcome_bind_eq_ok.mp writing with ⟨file, written, done⟩
        exact ⟨network, file, mapError_eq_ok.mp generated, written, (Except.ok.inj done).symm⟩
      split at listing
      next =>
        rcases Attempt.outcome_bind_eq_ok.mp listing with ⟨listings, listed, rest⟩
        cases outcome : fileAt (Path.join directory stem) "graph.txt" (.listing graph.lines) with
        | error fault =>
            rw [outcome] at listed
            cases listed
        | ok listing =>
            rw [outcome] at listed
            cases listed
            rcases finished rest with ⟨network, file, generated, written, same⟩
            exact ⟨stem, graph, network, [listing], file, rfl, readable, generated, written,
              List.forall_mem_singleton.mpr outcome, same⟩
      next =>
        rcases Attempt.outcome_bind_eq_ok.mp listing with ⟨listings, done, rest⟩
        cases done
        rcases finished rest with ⟨network, file, generated, written, same⟩
        exact ⟨stem, graph, network, [], file, rfl, readable, generated, written,
          List.forall_mem_nil _, same⟩

theorem places_of_filesOf {files : List (String × Contents)}
    (configured : run.allEmbeddings = .ok embeddings)
    (found : run.filesOf embeddings directory read model = .ok files) :
    ∃ stem code, run.Places read model stem code (files.filterMap (placed? directory)) := by
  rcases of_filesOf_eq_ok found with ⟨stem, graph, network, listings, file, hasStem, parsed,
    generated, written, listed, rfl⟩
  have ⟨codeName, codeSame⟩ := nameIn?_of_fileAt hasStem (by decide) (by decide) written
  refine ⟨stem, file.2, ⟨hasStem, embeddings, graph, network, configured, parsed, generated,
    codeSame⟩, ?_, ?_⟩
  · intro notDot
    rw [if_neg notDot] at codeName
    refine List.mem_filterMap.mpr ⟨file, List.mem_append_right _ List.mem_cons_self, ?_⟩
    rw [placed?, codeName]
    rfl
  · intro placed member
    rcases List.mem_filterMap.mp member with ⟨source, isFile, lies⟩
    rw [placed?, Option.map_eq_some_iff] at lies
    rcases lies with ⟨name, named, rfl⟩
    rcases List.mem_append.mp isFile with isListing | isCode
    · have ⟨listingName, _⟩ := nameIn?_of_fileAt hasStem (by decide) (by decide)
        (listed source isListing)
      rw [named] at listingName
      split at listingName
      next => cases listingName
      next notDot => exact ⟨notDot, .inr (Option.some.inj listingName)⟩
    · cases List.mem_singleton.mp isCode
      rw [named] at codeName
      split at codeName
      next => cases codeName
      next notDot => exact ⟨notDot, .inl (congrArg (·, file.2) (Option.some.inj codeName))⟩

/-! ## All files -/

variable {before after : Directory}

/-- A run writes the files of each model, one model after the other. -/
theorem of_directory_eq_ok (success : run.directory before read = .ok after) :
    ∃ placements, after = before.write placements.flatten ∧
      List.Forall₂ (fun model placed => ∃ stem code, run.Places read model stem code placed)
        run.models placements := by
  rcases Attempt.outcome_bind_eq_ok.mp success with ⟨directory, resolved, writing⟩
  rcases Attempt.outcome_bind_eq_ok.mp writing with ⟨files, found, done⟩
  rcases Attempt.outcome_bind_eq_ok.mp found with ⟨_, again, configuring⟩
  cases resolved.symm.trans again
  rcases Attempt.outcome_bind_eq_ok.mp configuring with ⟨embeddings, configured, generating⟩
  rcases Attempt.outcome_bind_eq_ok.mp generating with ⟨lists, generated, flattened⟩
  cases flattened
  cases done
  refine ⟨lists.map (List.filterMap (placed? directory)), ?_, ?_⟩
  · rw [← List.filterMap_flatten]
    rfl
  · rw [List.forall₂_map_right_iff]
    exact (mapM_eq_ok_iff.mp generated).imp fun _ _ found => places_of_filesOf configured found

/-- Whether a directory holds the code of a model, in a file with its stem. -/
def Leaves (run : Run) (read : String → Option Bytes) (after : Directory) (model : String) : Prop :=
  ∃ stem code, run.Makes read model stem code ∧ after.get? (stem ++ ".rs") = some code

theorem append_rs (text : String) : text ++ "." ++ "rs" = text ++ ".rs" := by
  rw [String.append_assoc]
  rfl

/-- No listing has the name of code. -/
theorem listing_ne_code (first second : String) :
    first ++ "." ++ "graph.txt" ≠ second ++ ".rs" := by
  intro same
  have last := congrArg (fun text : String => text.toList.getLast?) same
  simp at last

/-- What a file with the extension of code holds comes from a model. -/
theorem exists_placed {name : String} {contents : Contents}
    {placements : List (List (String × Contents))}
    (related : List.Forall₂
      (fun model placed => ∃ stem code, run.Places read model stem code placed)
      run.models placements)
    (member : (name ++ ".rs", contents) ∈ placements.flatten) :
    ∃ model ∈ run.models, ∃ stem, run.Makes read model stem contents ∧ stem ≠ "." ∧
      Path.stemOf stem = name := by
  rcases List.mem_flatten.mp member with ⟨placed, isPlaced, isFile⟩
  rcases exists_of_forall₂ related.flip isPlaced with ⟨model, isModel, stem, code, places⟩
  have ⟨notDot, codeOrListing⟩ := places.only _ isFile
  rcases codeOrListing with isCode | isListing
  · have ⟨named, same⟩ := Prod.mk.inj isCode
    rw [append_rs, String.append_left_inj] at named
    exact ⟨model, isModel, stem, same ▸ places.makes, notDot, named.symm⟩
  · exact (listing_ne_code _ _ isListing.symm).elim

/-- Models with different stems all find their code under their stems after a run, exactly if no
stem ends in an extension of its own, or is a single dot. -/
theorem all_left_iff (untouched : ∀ name contents, before.get? name = some contents →
      contents = .kept)
    (distinct : (run.models.map Path.stem?).Nodup)
    (success : run.directory before read = .ok after) :
    (∀ model ∈ run.models, run.Leaves read after model) ↔
      ∀ model ∈ run.models, ∀ stem, Path.stem? model = some stem →
        stem ≠ "." ∧ Path.stemOf stem = stem := by
  rcases of_directory_eq_ok success with ⟨placements, rfl, related⟩
  constructor
  · intro left model isModel stem hasStem
    rcases left model isModel with ⟨own, code, makes, holds⟩
    cases hasStem.symm.trans makes.stem
    have written : (stem ++ ".rs", code) ∈ placements.flatten := by
      refine (mem_of_get?_write holds).resolve_right fun kept => ?_
      rcases makes.made with ⟨_, _, _, _, _, _, same⟩
      cases same.symm.trans (untouched _ _ kept)
    rcases exists_placed related written with ⟨other, _, otherStem, otherMakes, notDot, same⟩
    cases makes.model_eq otherMakes
    cases hasStem.symm.trans otherMakes.stem
    exact ⟨notDot, same⟩
  · intro plain model isModel
    rcases exists_of_forall₂ related isModel with ⟨placed, isPlaced, stem, code, places⟩
    have ⟨notDot, same⟩ := plain model isModel stem places.makes.stem
    have member := places.mem notDot
    rw [append_rs, same] at member
    refine ⟨stem, code, places.makes, get?_write_of_mem
      (List.mem_flatten.mpr ⟨placed, isPlaced, member⟩) fun another also => ?_⟩
    rcases exists_placed related also
      with ⟨other, isOther, otherStem, makes, otherNotDot, otherSame⟩
    have ⟨_, itself⟩ := plain other isOther otherStem makes.stem
    have stems : Path.stem? other = Path.stem? model := by
      rw [makes.stem, places.makes.stem, ← itself, otherSame]
    cases List.inj_on_of_nodup_map distinct isOther isModel stems
    exact makes.unique places.makes

/-- A run for models without content. -/
def emptyModels (models : List String) : Run where
  destination := ⟨some "out", false, none⟩
  models := models
  development := true
  embeddings := .empty
  configuration := none

/-- Directories of models do not count, and neither do dots at the beginning. -/
theorem plain_stems_left :
    ∃ after, (emptyModels ["first/model.onnx", "second/.hidden"]).directory
        (.ofList [("model.rs", .kept)]) (fun _ => some []) = .ok after ∧
      ∀ model ∈ ["first/model.onnx", "second/.hidden"],
        (emptyModels ["first/model.onnx", "second/.hidden"]).Leaves (fun _ => some []) after
          model := by
  obtain ⟨after, success⟩ : ∃ after, (emptyModels ["first/model.onnx", "second/.hidden"]).directory
      (.ofList [("model.rs", .kept)]) (fun _ => some []) = .ok after :=
    exists_of_isOk (by decide +kernel)
  have untouched : ∀ name contents,
      Table.get? (.ofList [("model.rs", .kept)] : Directory) name = some contents →
        contents = .kept := by
    intro name contents found
    cases List.mem_singleton.mp (Table.mem_of_get?_ofList found)
    rfl
  have plain : ∀ model ∈ ["first/model.onnx", "second/.hidden"], ∀ stem ∈ Path.stem? model,
      stem ≠ "." ∧ Path.stemOf stem = stem := by
    decide +kernel
  exact ⟨after, success, (all_left_iff untouched (by decide +kernel) success).mpr plain⟩

/-- Of two models whose stems differ in their extensions only the last is found, under the name
that both lose them to. -/
theorem extended_stem_lost :
    ((emptyModels ["a.b.onnx", "a.c.onnx"]).models.map Path.stem?).Nodup ∧
      ∃ after, (emptyModels ["a.b.onnx", "a.c.onnx"]).directory .empty (fun _ => some []) =
          .ok after ∧
        after.entries.map (·.1) = ["a.graph.txt", "a.rs"] ∧
        ¬(emptyModels ["a.b.onnx", "a.c.onnx"]).Leaves (fun _ => some []) after "a.b.onnx" := by
  refine ⟨by decide +kernel, ?_⟩
  have names :
      ((emptyModels ["a.b.onnx", "a.c.onnx"]).directory .empty fun _ => some []).toOption.map
        (fun after => after.entries.map (·.1)) = some ["a.graph.txt", "a.rs"] := by
    decide +kernel
  cases success : (emptyModels ["a.b.onnx", "a.c.onnx"]).directory .empty fun _ => some [] with
  | error fault =>
      rw [success] at names
      cases names
  | ok after =>
      rw [success] at names
      have entries : after.entries.map (·.1) = ["a.graph.txt", "a.rs"] := Option.some.inj names
      refine ⟨after, rfl, entries, ?_⟩
      rintro ⟨stem, code, makes, holds⟩
      have hasStem : Path.stem? "a.b.onnx" = some "a.b" := by decide +kernel
      cases hasStem.symm.trans makes.stem
      have listed : "a.b" ++ ".rs" ∈ after.entries.map (·.1) :=
        List.mem_map_of_mem (Table.mem_entries_of_get? holds)
      rw [entries] at listed
      exact absurd listed (by decide)

end Network.Run

end OnnxForge
