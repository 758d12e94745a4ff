import DeltaLint.Proofs.Path.Text
import DeltaLint.Proofs.Settings.Reading
import DeltaLint.Settings.Reading

/-!
# Outputs that are read

Whatever a configuration of logging is read from, its outputs go to a standard
output or to a file by its absolute path.
-/

namespace DeltaLint

theorem Path.isAbsolute_ofString_text {p : Path} (h : p.isAbsolute = true) :
    (Path.ofString p.text).isAbsolute = true := by
  have hfront : exists rest, p.text.toList = separator :: rest := by
    rcases p with ⟨origin, parts⟩
    cases origin with
    | here =>
        cases h
    | root =>
        exact ⟨(String.intercalate "/" parts).toList, by simp [text, originText, separator]⟩
    | doubleRoot =>
        exact ⟨separator :: (String.intercalate "/" parts).toList,
          by simp [text, originText, separator]⟩
  rcases hfront with ⟨rest, hrest⟩
  rw [isAbsolute, ofString, hrest]
  unfold originOf
  split <;> simp_all [separator]

/-- An output goes to a standard output or to a file by its absolute path. -/
def Log.Output.IsPlaced (o : Log.Output) : Prop :=
  o.isConsole = true ∨ (Path.ofString o.destination).isAbsolute = true

namespace Settings

variable {h : Host} {d : Datum}

theorem isPlaced_of_readDestination {s : String} {o : Log.Output}
    (hread : readDestination h d = .ok (.ok s)) (ho : o.destination = s) : o.IsPlaced := by
  rcases Reading.next_ok_iff.mp hread with ⟨given, -, hgiven⟩
  rw [Log.Output.IsPlaced, Log.Output.isConsole, ho]
  split at hgiven
  · rename_i hstandard
    cases hgiven
    exact .inl hstandard
  · split at hgiven
    · cases hgiven
    · split at hgiven
      · rename_i habsolute
        cases hgiven
        exact .inr (Path.isAbsolute_ofString_text habsolute)
      · cases hgiven

theorem isPlaced_of_readOutput {o : Log.Output} (hread : readOutput h d = .ok (.ok o)) :
    o.IsPlaced := by
  rcases Reading.next_ok_iff.mp hread with ⟨entries, -, hmade⟩
  rcases Reading.make_ok_iff.mp hmade with ⟨⟨format, destination, level⟩, hparts, rfl⟩
  have hdestination := (Reading.both_ok_iff.mp (Reading.both_ok_iff.mp hparts).2).1
  rw [Reading.field] at hdestination
  split at hdestination
  · exact isPlaced_of_readDestination (Reading.within_ok_iff.mp hdestination) rfl
  · cases hdestination
    exact .inl rfl

/-- Every output of a configuration that was read is placed, also where none is given. -/
theorem isPlaced_of_readLogging {config : Log.Logging}
    (hread : readLogging h d = .ok (.ok config)) : forall o, o ∈ config.outputs -> o.IsPlaced := by
  rcases Reading.next_ok_iff.mp hread with ⟨entries, -, hmade⟩
  rcases Reading.make_ok_iff.mp hmade with ⟨⟨level, outputs⟩, hparts, rfl⟩
  have houtputs := (Reading.both_ok_iff.mp hparts).2
  rw [Reading.field] at houtputs
  split at houtputs
  · rcases Reading.next_ok_iff.mp (Reading.within_ok_iff.mp houtputs) with ⟨items, -, hitems⟩
    intro o ho
    rcases exists_left_of_mem (Reading.indexed_ok_iff.mp hitems) ho with ⟨r, hr, hro⟩
    rcases List.mem_map.mp hr with ⟨item, -, rfl⟩
    exact isPlaced_of_readOutput hro
  · cases houtputs
    exact List.forall_mem_singleton.mpr (.inl rfl)

end Settings
end DeltaLint
