import Registrar.Proofs.Plans
import Registrar.Proofs.Visits

/-!
# The files that a walk writes

The file of a package stands right in the output directory, whatever its path holds, because its
name is a single part. Packages whose files have different names are therefore written apart: each
file of the log is there in the end, and everything else is as it was. A walk compares the names of
all its files before it writes the first one.
-/

namespace Registrar

open Text.Utf8 (Bytes)

/-- The name of an output file is one part of a path that neither stays nor climbs. -/
theorem isPart_outputFilename (path : String) (format : Format) :
    IsPart (outputFilename path format.extension) ∧
      outputFilename path format.extension ≠ "." ∧
      outputFilename path format.extension ≠ ".." := by
  have hlist : (outputFilename path format.extension).toList =
      (path.toList.map fun c => if c == '/' then '_' else c) ++ format.extension.toList := by
    simp [outputFilename]
  have hslash : '/' ∉ path.toList.map fun c => if c == '/' then '_' else c := by
    intro hmem
    obtain ⟨c, -, hc⟩ := List.mem_map.mp hmem
    split at hc
    · cases hc
    · rename_i hne
      exact hne (beq_iff_eq.mpr hc)
  have hlong : 2 < format.extension.toList.length ∧ '/' ∉ format.extension.toList := by
    cases format with
    | go => decide
    | json indent => exact (by decide : 2 < ".json".toList.length ∧ '/' ∉ ".json".toList)
  have hne : ∀ text : String, text.toList.length ≤ 2 → outputFilename path format.extension ≠ text := by
    rintro text htext rfl
    rw [hlist, List.length_append] at htext
    omega
  refine ⟨⟨hne "" (by decide), ?_⟩, hne "." (by decide), hne ".." (by decide)⟩
  rw [hlist, List.mem_append, not_or]
  exact ⟨hslash, hlong.2⟩

namespace Walk.Plan

variable {w : Walk} {p : Plan} {files files' : FileTree} {out : List String} {e : PackageEntry}
  {d : Document} {entries : List PackageEntry} {r : Record}

/-- The path text of a package's file. -/
def target (p : Plan) (e : PackageEntry) : String :=
  (p.out.join (Path.ofText (p.fileName e))).toText

/-- The contents of a file with a document. -/
def fileBytes (p : Plan) (d : Document) : Bytes :=
  Text.Utf8.encode (p.generator.format.renderFile d p.package)

/-- A file of a package ends in no slash. -/
theorem endsWith_target (p : Plan) (e : PackageEntry) : (p.target e).endsWith "/" = false := by
  obtain ⟨hpart, hstay, -⟩ := isPart_outputFilename e.path p.generator.format
  rw [target, fileName, Path.ofText_of_isPart hpart hstay, Path.toText_join_part]
  split
  · exact hpart.endsWith_append_eq_false _
  · exact hpart.endsWith_append_eq_false _

/-- The file of a package is asked for in the output directory. -/
theorem asksFor_target (hp : p.out.IsAnchored) (hout : files.IsDirAt p.out.toText out)
    (e : PackageEntry) : files.AsksFor (p.target e) out (p.fileName e) := by
  obtain ⟨hpart, hstay, hclimb⟩ := isPart_outputFilename e.path p.generator.format
  exact hout.asksFor_join hp hpart hstay hclimb

/-- A document is written when its file is. -/
theorem writeDocument_eq_ok_iff (p : Plan) (files : FileTree) (e : PackageEntry) (d : Document)
    (files' : FileTree) (r : Record) :
    p.writeDocument files e d = .ok (files', r) ↔
      files.write (p.target e) (p.fileBytes d) = .ok files' ∧
        r = ⟨.info, "bindgen", "Wrote " ++ p.target e⟩ := by
  rw [writeDocument, Except.bind_eq_ok_iff]
  simp only [Except.mapError_eq_ok_iff, Except.pure_eq_ok_iff, Prod.mk.injEq, target, fileBytes]
  constructor
  · rintro ⟨_, hwrite, rfl, rfl⟩
    exact ⟨hwrite, rfl⟩
  · rintro ⟨hwrite, rfl⟩
    exact ⟨files', hwrite, rfl, rfl⟩

/-! ### Names that collide -/

/-- The search for a collision finds none exactly if the names of all files are different, also
from those of the files in front. -/
theorem collision?_eq_none_iff (p : Plan) (seen : List (String × PackageEntry))
    (entries : List PackageEntry) :
    p.collision? seen entries = none ↔ (entries.map p.fileName).Nodup ∧
      ∀ e ∈ entries, p.fileName e ∉ seen.map Prod.fst := by
  induction entries generalizing seen with
  | nil => simp [collision?]
  | cons e rest ih =>
    have hlookup : seen.lookup (p.fileName e) = none ↔ p.fileName e ∉ seen.map Prod.fst := by
      simp only [List.lookup_eq_none_iff, bne_iff_ne, ne_eq, List.mem_map, not_exists, not_and]
      exact forall₂_congr fun x _ => not_congr eq_comm
    rw [collision?, List.map_cons, List.nodup_cons, List.forall_mem_cons, ← hlookup]
    cases seen.lookup (p.fileName e) with
    | some earlier => simp
    | none =>
      simp only [ih, List.map_cons, List.mem_cons, not_or, true_and]
      constructor
      · rintro ⟨hnodup, hrest⟩
        refine ⟨⟨fun hmem => ?_, hnodup⟩, fun e' he' => (hrest e' he').2⟩
        obtain ⟨e', he', heq⟩ := List.mem_map.mp hmem
        exact (hrest e' he').1 heq
      · rintro ⟨⟨hfirst, hnodup⟩, hrest⟩
        refine ⟨hnodup, fun e' he' => ⟨fun heq => ?_, hrest e' he'⟩⟩
        exact hfirst (heq ▸ List.mem_map_of_mem he')

/-- A walk whose files would share a name writes none. -/
theorem leaves_run_of_not_nodup (w : Walk) (files : FileTree)
    (h : ¬ (p.entries.map p.fileName).Nodup) : (p.run w files).leaves = (files, .ok 2) := by
  rw [run]
  cases hcollision : p.collision? [] p.entries with
  | some x => rfl
  | none => exact absurd ((collision?_eq_none_iff p [] p.entries).mp hcollision).1 h

/-- A walk to files of different names goes through its packages. -/
theorem run_eq_writeAll (w : Walk) (files : FileTree) (h : (p.entries.map p.fileName).Nodup) :
    p.run w files = writeAll w p false files p.entries :=
  run_of_collision?_eq_none ((collision?_eq_none_iff p [] p.entries).mpr ⟨h, by simp⟩)

/-- The log is in the order of the packages. -/
theorem log_sublist (w : Walk) (p : Plan) (files : FileTree) (entries : List PackageEntry) :
    ((p.log w files entries).map Prod.fst).Sublist entries := by
  induction entries generalizing files with
  | nil => exact List.Sublist.slnil
  | cons e rest ih =>
    rw [log]
    unfold logNext
    cases p.outcome w files e with
    | stopped f => exact List.nil_sublist _
    | passedOver text | skipped => exact (ih files).cons e
    | wrote d files' r => exact (ih files').cons_cons e

/-! ### Writing the documents of a log -/

/-- A document that was written. -/
theorem hasWritten_of_writeDocument (hfiles : files.IsSound) (hp : p.out.IsAnchored)
    (hout : files.IsDirAt p.out.toText out) (h : p.writeDocument files e d = .ok (files', r)) :
    files'.HasWritten files (out ++ [p.fileName e]) (p.fileBytes d) ∧
      files'.read (p.target e) = .ok (p.fileBytes d) := by
  have hwrite := ((writeDocument_eq_ok_iff p files e d files' r).mp h).1
  have hasks := asksFor_target hp hout e
  exact ⟨hasks.hasWritten hfiles hwrite, hasks.read_of_write hfiles (endsWith_target p e) hwrite⟩

/-- The documents of a log were written: all their files are there and hold them, and everything
else is as it was. -/
structure Holds (p : Plan) (out : List String) (log : List (PackageEntry × Document))
    (after before : FileTree) : Prop where
  changed : after.ChangedIn before out
  written : ∀ e d, (e, d) ∈ log →
    after.kindAt? (out ++ [p.fileName e]) = some (.file (p.fileBytes d)) ∧
      after.read (p.target e) = .ok (p.fileBytes d)
  elsewhere : ∀ names, (∀ e d, (e, d) ∈ log → names ≠ out ++ [p.fileName e]) →
    after.kindAt? names = before.kindAt? names

/-- Writing documents to files of different names loses none of them. -/
theorem holds_of_replay (hp : p.out.IsAnchored) {log : List (PackageEntry × Document)}
    (hnodup : (log.map fun x => p.fileName x.1).Nodup) {before after : FileTree}
    (hbefore : before.IsSound) (hout : before.IsDirAt p.out.toText out)
    (h : p.replay before log = .ok after) : p.Holds out log after before := by
  induction log generalizing before with
  | nil =>
    cases h
    exact ⟨hbefore.changedIn_refl out, by simp, fun _ _ => rfl⟩
  | cons x rest ih =>
    obtain ⟨e, d⟩ := x
    obtain ⟨hfresh, hnodup⟩ := List.nodup_cons.mp hnodup
    rw [replay, List.foldlM_cons] at h
    obtain ⟨next, hnext, hrest⟩ := (Except.bind_eq_ok_iff _ _ _).mp h
    obtain ⟨⟨next', r⟩, hwrite, rfl⟩ : ∃ x, p.writeDocument before e d = .ok x ∧ x.1 = next := by
      cases hwrite : p.writeDocument before e d with
      | error f =>
        rw [hwrite] at hnext
        cases hnext
      | ok x =>
        rw [hwrite] at hnext
        exact ⟨x, rfl, Except.ok.inj hnext⟩
    obtain ⟨hwritten, hread⟩ := hasWritten_of_writeDocument hbefore hp hout hwrite
    have hout' := hwritten.keeps.isDirAt hout
    have hholds := ih hnodup hwritten.sound hout' hrest
    have hfirst : after.kindAt? (out ++ [p.fileName e]) = some (.file (p.fileBytes d)) := by
      rw [hholds.elsewhere, hwritten.kindAt?_eq, if_pos rfl]
      intro e' d' he' heq
      have hnames : p.fileName e = p.fileName e' := by simpa using heq
      exact hfresh (List.mem_map.mpr ⟨(e', d'), he', hnames.symm⟩)
    refine ⟨hholds.changed.trans hwritten.changedIn, ?_, ?_⟩
    · intro e' d' he'
      rcases List.mem_cons.mp he' with heq | he'
      · cases heq
        refine ⟨hfirst, ?_⟩
        have hslash := endsWith_target p e
        have hnext : next'.kindAt? (out ++ [p.fileName e]) = some (.file (p.fileBytes d)) := by
          rw [hwritten.kindAt?_eq, if_pos rfl]
        have hasks := asksFor_target hp hout' e
        rw [← hread, (hasks.keep hholds.changed.keeps).read_eq hslash hfirst,
          hasks.read_eq hslash hnext]
      · exact hholds.written e' d' he'
    · intro names hnames
      rw [hholds.elsewhere names fun e' d' he' => hnames e' d' (List.mem_cons_of_mem _ he'),
        hwritten.kindAt?_eq, if_neg (hnames e d List.mem_cons_self)]

/-- What a walk to files of different names leaves. -/
theorem holds_writeAll (hp : p.out.IsAnchored) (hnodup : (entries.map p.fileName).Nodup)
    (hfiles : files.IsSound) (hout : files.IsDirAt p.out.toText out) (failed : Bool) :
    p.Holds out (p.log w files entries) (writeAll w p failed files entries).files files := by
  apply holds_of_replay hp ?_ hfiles hout (replay_log failed files entries)
  have hsublist := (log_sublist w p files entries).map p.fileName
  rw [List.map_map] at hsublist
  exact hnodup.sublist hsublist

/-- A walk finds the sources of its packages as they were before it, but for files right in the
output directory. -/
theorem changedIn_of_mem_visits (hp : p.out.IsAnchored) (hfiles : files.IsSound)
    (hout : files.IsDirAt p.out.toText out) {found : FileTree}
    (h : (e, found) ∈ p.visits w files entries) : found.ChangedIn files out := by
  induction entries generalizing files with
  | nil => cases h
  | cons first rest ih =>
    obtain ⟨f, hstop⟩ | ⟨files', hnext⟩ := stopped_or_next? w p files first
    · rw [visits_cons_of_stopped hstop] at h
      cases List.mem_singleton.mp h
      exact hfiles.changedIn_refl out
    · rw [visits_cons_of_next? hnext] at h
      rcases List.mem_cons.mp h with h | h
      · cases h
        exact hfiles.changedIn_refl out
      · have hstep : files'.ChangedIn files out := by
          cases houtcome : p.outcome w files first with
          | stopped f => simp [houtcome, Outcome.next?] at hnext
          | passedOver text | skipped =>
            obtain rfl : files = files' := by simpa [houtcome, Outcome.next?] using hnext
            exact hfiles.changedIn_refl out
          | wrote d files'' r =>
            obtain rfl : files'' = files' := by simpa [houtcome, Outcome.next?] using hnext
            have hwrite := (of_outcome_eq_wrote houtcome).2
            exact (hasWritten_of_writeDocument hfiles hp hout hwrite).1.changedIn
        exact (ih hstep.sound (hstep.keeps.isDirAt hout) h).trans hstep

end Walk.Plan

namespace Walk.Plans

variable {host : Host} {w : Walk} {files made : FileTree} {c : Config} {p : Plan}

/-- A walk whose files would share a name changes no file and ends with status two. Any other walk
writes right in its output directory, to a file of its own for each package. In the end such a file
holds the document of its package under the package clause of the walk, and all other files are as
they were. -/
theorem writes_apart (hfiles : files.IsSound) (h : w.Plans host files c made p) :
    ∃ out, made.IsDirAt p.out.toText out ∧
      (¬ (p.entries.map p.fileName).Nodup →
        (w.run host files).status = .ok 2 ∧
          ∀ names content, (w.run host files).files.kindAt? names = some (.file content) ↔
            files.kindAt? names = some (.file content)) ∧
      ((p.entries.map p.fileName).Nodup →
        ((p.log w made p.entries).map fun x => out ++ [p.fileName x.1]).Nodup ∧
          (∀ e d, (e, d) ∈ p.log w made p.entries →
            (∃ found, (e, found) ∈ p.visits w made p.entries ∧ found.ChangedIn made out ∧
              p.generator.build found w.root e.path e.directory e.initSuffix = .ok (some d)) ∧
            (w.run host files).files.kindAt? (out ++ [p.fileName e]) =
              some (.file (Text.Utf8.encode (p.generator.format.renderFile d
                (Settings.orElse w.package c.output.package)))) ∧
            (w.run host files).files.read (p.target e) = .ok (p.fileBytes d)) ∧
          ∀ names content, (∀ e d, (e, d) ∈ p.log w made p.entries →
              names ≠ out ++ [p.fileName e]) →
            ((w.run host files).files.kindAt? names = some (.file content) ↔
              files.kindAt? names = some (.file content))) := by
  obtain ⟨hmade, hextends, out, hout⟩ := h.exists_out hfiles
  have hp := h.isAnchored_out
  refine ⟨out, hout, fun hsame => ?_, fun hnodup => ?_⟩
  · have hleaves := h.run_eq ▸ Plan.leaves_run_of_not_nodup w made hsame
    refine ⟨congrArg Prod.snd hleaves, fun names content => ?_⟩
    rw [← hextends.files, show (w.run host files).files = made from congrArg Prod.fst hleaves]
  · have hholds := Plan.holds_writeAll (w := w) hp hnodup hmade hout false
    rw [← Plan.run_eq_writeAll w made hnodup, ← h.run_eq] at hholds
    have hpackage := h.parts.2.2
    refine ⟨?_, fun e d hmem => ⟨?_, ?_, (hholds.written e d hmem).2⟩, fun names content hnames => ?_⟩
    · have hnames := hnodup.sublist ((Plan.log_sublist w p made p.entries).map p.fileName)
      have hinj : Function.Injective fun name : String => out ++ [name] := by
        intro name name' heq
        simpa using heq
      simpa [Function.comp_def] using hnames.map hinj
    · obtain ⟨found, hvisit, files', r, hwrote⟩ := Plan.mem_log_iff.mp hmem
      exact ⟨found, hvisit, Plan.changedIn_of_mem_visits hp hmade hout hvisit,
        (Plan.of_outcome_eq_wrote hwrote).1⟩
    · rw [(hholds.written e d hmem).1, Plan.fileBytes, hpackage]
    · rw [hholds.elsewhere names hnames, hextends.files]

/-- Packages whose paths climb, are absolute or hold empty parts, in directories of other names. -/
def climbingFiles : FileTree :=
  { root := .dir [
      (".bindgen.yml", .ofText
        "packages:\n  - path: ../up\n    dir: a\n  - path: /b//c\n    dir: b\n"),
      ("src", .dir [
        ("a", .dir [("x.go", .ofText "package a\n\nvar A = 0\n")]),
        ("b", .dir [("x.go", .ofText "package b\n\nvar B = 0\n")])])]
    home := [] }

/-- A walk to a directory that is not there yet. -/
def climbingWalk : Walk :=
  { root := "src", out := "../out" }

theorem writes_apart_climbingFiles :
    climbingFiles.IsSound ∧ ∃ c made p, climbingWalk.Plans {} climbingFiles c made p ∧
      made.IsDirAt p.out.toText ["out"] ∧
      (p.log climbingWalk made p.entries).map (fun x => p.fileName x.1) =
        [".._up.go", "_b__c.go"] ∧
      ∀ e d, (e, d) ∈ p.log climbingWalk made p.entries →
        (climbingWalk.run {} climbingFiles).files.kindAt? ["out", p.fileName e] =
          some (.file (p.fileBytes d)) := by
  have hrun : climbingFiles.IsSound ∧ ∃ c made p, climbingWalk.Plans {} climbingFiles c made p ∧
      (p.entries.map p.fileName).Nodup ∧ made.IsDirAt p.out.toText ["out"] ∧
      (p.log climbingWalk made p.entries).map (fun x => p.fileName x.1) =
        [".._up.go", "_b__c.go"] := by
    decide +kernel
  obtain ⟨hfiles, c, made, p, hplans, hnodup, hdir, hlog⟩ := hrun
  obtain ⟨out, hout, -, hapart⟩ := writes_apart hfiles hplans
  obtain rfl := hdir.eq hout
  refine ⟨hfiles, c, made, p, hplans, hdir, hlog, fun e d hmem => ?_⟩
  rw [Plan.fileBytes, hplans.parts.2.2]
  exact ((hapart hnodup).2.1 e d hmem).2.1

end Walk.Plans

end Registrar
