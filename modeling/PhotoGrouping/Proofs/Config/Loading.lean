import PhotoGrouping.Proofs.Config.Saving
import PhotoGrouping.Proofs.Toml.Range

namespace PhotoGrouping.Config

open Toml DataFormat

variable {c : Config} {bytes : List UInt8} {fields : List (String × Value)}

theorem le_maxInteger_of_natural? {v : Value} {n : Nat} (hv : v.InRange)
    (h : format.natural? v = some n) : n ≤ maxInteger := by
  obtain ⟨m, hm, hn⟩ := Option.bind_eq_some_iff.mp h
  split at hn
  · rename_i hpos
    obtain rfl : v = .integer m := by
      cases v with
      | integer k =>
        obtain rfl := Option.some.inj hm
        rfl
      | string | float | boolean | datetime | array | table => cases hm
    have hlarge := (hv m rfl).2
    rw [← Option.some.inj hn, maxInteger]
    omega
  · cases hn

/-- The limit on sample files of a configuration that is read can be written again. -/
theorem maxSampleFiles_le_of_read? (hfields : ∀ f ∈ fields, f.2.InRange)
    (h : read? format (.table fields) = some c) : c.maxSampleFiles ≤ maxInteger := by
  simp only [read?, Option.bind_eq_bind, Option.bind_eq_some_iff] at h
  obtain ⟨_, hsame, _, -, _, -, _, -, _, -, _, -, n, hn, _, -, _, -, _, -, hc⟩ := h
  obtain rfl := Option.some.inj hsame
  obtain rfl := Option.some.inj hc
  change n ≤ maxInteger
  unfold defaulted at hn
  split at hn
  · rw [← Option.some.inj hn]
    decide
  · rename_i v hv
    exact le_maxInteger_of_natural? (hfields _ (mem_of_lookup_eq_some _ _ _ hv)) hn

theorem maxSampleFiles_le_of_ofBytes (h : ofBytes bytes = .ok c) : c.maxSampleFiles ≤ maxInteger := by
  unfold ofBytes at h
  split at h
  · cases h
  · unfold ofText at h
    split at h
    · rename_i hread
      obtain ⟨fields, hfields, hread⟩ := Option.bind_eq_some_iff.mp hread
      obtain rfl := Except.ok.inj h
      exact maxSampleFiles_le_of_read? (inRange_of_parse? hfields) hread
    · cases h

/-- The bytes of a configuration that is saved are read as it was. -/
theorem ofBytes_document (h : c.maxSampleFiles ≤ maxInteger) :
    ofBytes (Text.Utf8.encode c.document) = .ok c := by
  rw [ofBytes, Text.Utf8.decode?_encode]
  dsimp only
  rw [ofText, parse?_document h, Option.bind_some, read?_tomlFields h]

end PhotoGrouping.Config
