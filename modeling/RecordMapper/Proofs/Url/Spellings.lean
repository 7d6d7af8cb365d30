import RecordMapper.Proofs.Url.Display

namespace RecordMapper

open Text

namespace DbUrl

variable {name : String} {d : Driver}

theorem parse_of_name (hname : Driver.ofName name = .ok d) {rest : String}
    (hrest : name = "sqlite" → rest ≠ "") :
    parse (name ++ "://" ++ rest) = behind d rest.toList := by
  by_cases hplain : name = "sqlite"
  · subst hplain
    cases hname
    rw [behind, String.ofList_toList]
    exact parse_path (hrest rfl)
  · have hcolon := Driver.colon_not_mem_of_named (Driver.named_of_ofName hname)
    have hread := parse_of_scheme hcolon hplain rest.toList
    rwa [String.ofList_toList, hname] at hread

theorem parse_pathless :
    parse ("sqlite" ++ "://" ++ "") = .error (.invalidArgument .noDatabasePath) := rfl

theorem parse_pathless_alias (hname : Driver.ofName name = .ok .sqlite) (hne : name ≠ "sqlite") :
    parse (name ++ "://" ++ "") = .ok (sqlite "") :=
  parse_of_name hname fun hplain => absurd hplain hne

theorem plain_of_alike (hname : Driver.ofName name = .ok .sqlite)
    (h : (parse ("sqlite" ++ "://" ++ "")).mapError Error.kind =
      (parse (name ++ "://" ++ "")).mapError Error.kind) : name = "sqlite" := by
  by_contra hne
  rw [parse_pathless, parse_pathless_alias hname hne] at h
  cases h

theorem driver_of_server {rest : List Char} {u : DbUrl} (h : server d rest = .ok u) :
    u.driver = d := by
  obtain ⟨_, -, hreturn⟩ := except_bind_eq_ok h
  cases hreturn
  rfl

theorem pathless_of_parse {text : String} {u : DbUrl} (h : parse text = .ok u)
    (hdriver : u.driver = .sqlite) (hdatabase : u.database = "") :
    ∃ name, Driver.ofName name = .ok .sqlite ∧ name ≠ "sqlite" ∧ text = name ++ "://" := by
  rw [parse] at h
  split at h
  · simp only at h
    split at h
    · cases h
    · rename_i hpath
      cases h
      exact absurd (by simpa [sqlite] using hdatabase) hpath
  · rename_i hplain
    split at h
    · cases h
    · rename_i scheme rest hsplit
      obtain ⟨htext, -⟩ := (splitFirst_eq_some (List.cons_ne_nil _ _)).1 hsplit
      obtain ⟨driver, hscheme, h⟩ := except_bind_eq_ok h
      cases driver with
      | postgres => cases (driver_of_server h).symm.trans hdriver
      | sqlite =>
        cases h
        obtain rfl : rest = [] := by simpa [sqlite] using hdatabase
        refine ⟨String.ofList scheme, hscheme, ?_, ?_⟩
        · intro heq
          have hlead : scheme = "sqlite".toList := by rw [← heq, String.toList_ofList]
          rw [htext, hlead] at hplain
          cases hplain
        · rw [← String.toList_inj, htext]
          simp

end DbUrl

open DbUrl

/-- What follows two names of one driver is read alike, as one URL or with one error, unless nothing
follows them and just one of them is the plain name of the driver of paths. Under that name a path
that is not there is an error, and under every other name it is read as an empty one. -/
theorem spelled_alike_iff {d : Driver} {first second : String}
    (hfirst : Driver.ofName first = .ok d) (hsecond : Driver.ofName second = .ok d)
    (rest : String) :
    ((parse (first ++ "://" ++ rest)).mapError Error.kind =
        (parse (second ++ "://" ++ rest)).mapError Error.kind ↔
      (rest = "" → (first = "sqlite" ↔ second = "sqlite"))) ∧
    ((rest = "" → (first = "sqlite" ↔ second = "sqlite")) →
      parse (first ++ "://" ++ rest) = parse (second ++ "://" ++ rest)) ∧
    ∀ text, (∃ u, parse text = .ok u ∧ u.driver = .sqlite ∧ u.database = "") ↔
      ∃ name, Driver.ofName name = .ok .sqlite ∧ name ≠ "sqlite" ∧ text = name ++ "://" := by
  have hsame (h : rest = "" → (first = "sqlite" ↔ second = "sqlite")) :
      parse (first ++ "://" ++ rest) = parse (second ++ "://" ++ rest) := by
    by_cases hnames : first = "sqlite" ∧ second = "sqlite"
    · rw [hnames.1, hnames.2]
    · have hlook : first = "sqlite" → rest ≠ "" := fun hf hr => hnames ⟨hf, (h hr).1 hf⟩
      have hlook' : second = "sqlite" → rest ≠ "" := fun hs hr => hnames ⟨(h hr).2 hs, hs⟩
      rw [parse_of_name hfirst hlook, parse_of_name hsecond hlook']
  refine ⟨⟨fun h hrest => ?_, fun h => congrArg _ (hsame h)⟩, hsame, fun text => ⟨?_, ?_⟩⟩
  · subst hrest
    constructor
    · rintro rfl
      cases hfirst
      exact plain_of_alike hsecond h
    · rintro rfl
      cases hsecond
      exact plain_of_alike hfirst h.symm
  · rintro ⟨u, hparse, hdriver, hdatabase⟩
    exact pathless_of_parse hparse hdriver hdatabase
  · rintro ⟨name, hname, hne, rfl⟩
    have hparse := parse_pathless_alias hname hne
    rw [String.append_empty] at hparse
    exact ⟨_, hparse, rfl, rfl⟩

namespace Sample

theorem alias_spelled :
    Driver.ofName "SQLite" = .ok .sqlite ∧ Driver.ofName "sqlite3" = .ok .sqlite ∧
    parse "SQLite://" = parse "sqlite3://" ∧ parse "sqlite3://" = .ok (sqlite "") := by
  have hfirst : Driver.ofName "SQLite" = .ok .sqlite := rfl
  have hsecond : Driver.ofName "sqlite3" = .ok .sqlite := rfl
  obtain ⟨-, hsame, -⟩ := spelled_alike_iff hfirst hsecond ""
  exact ⟨hfirst, hsecond, hsame (by decide), rfl⟩

/-- The plain name and another name of one driver, without a path. -/
theorem plain_apart :
    Driver.ofName "sqlite" = .ok .sqlite ∧ Driver.ofName "sqlite3" = .ok .sqlite ∧
    parse "sqlite://" = .error (.invalidArgument .noDatabasePath) ∧
    parse "sqlite3://" = .ok (sqlite "") ∧
    (parse "sqlite://").mapError Error.kind ≠ (parse "sqlite3://").mapError Error.kind :=
  ⟨rfl, rfl, rfl, rfl, nofun⟩

end Sample

end RecordMapper
