import TemplateBench.Proofs.Regex.Spliced
import TemplateBench.Proofs.Regex.Ways
import TemplateBench.Proofs.TextFsm.NestedItems
import TemplateBench.Proofs.TextFsm.Trailing

/-!
Values whose regex is one group in parentheses.

* `read_group`: what stands on its own is one capturing group once it is put in parentheses, with a
  name or without.
* `ofParts_steps`: all that a declaration which is accepted has passed.
* `parse_oneGroup`: so the named group of a value captures the whole match of its template if the
  regex stands on its own between its first and its last character.
* `parse_twoGroups`: a regex that only begins and ends with parentheses is accepted, and then the
  name is given to a part of it.
-/
namespace TemplateBench.Regex

/-! ## Expressions in one group -/

theorem readBranch_question (n : Nat) (cs : List Char) :
    readBranch (n + 1) [] { rest := '?' :: cs } = fail := by
  rw [readBranch]
  rfl

/-- What stands on its own does not begin with a question mark. -/
theorem head?_ne_of_read {cs : List Char} {e : Expression} (h : read cs = .ok e) :
    cs.head? ≠ some '?' := by
  cases cs with
  | nil => simp
  | cons c rest =>
    intro hc
    obtain rfl := Option.some.inj hc
    obtain ⟨piece, cur, hread, _⟩ := exists_of_read h
    have hfuel : 2 * ('?' :: rest).length + 3 = 2 * rest.length + 3 + 1 + 1 := by
      rw [List.length_cons]
      omega
    rw [hfuel, readBranches, readBranch_question] at hread
    cases hread

theorem readOpening_plain {cs : List Char} (h : cs.head? ≠ some '?') :
    readOpening {} cs = .ok (.capture none, cs) := by
  have hsettle : settle {} cs = cs := rfl
  unfold readOpening
  rw [hsettle]
  split
  · exact absurd rfl h
  · rfl

/-- An expression that stands on its own, put in a group, is that group. -/
theorem read_group {opening body : List Char} {name : Option String} {e whole : Expression}
    (hopening : ∀ r, readOpening {} (opening ++ (body ++ [')'])) = .ok r →
      r = (.capture name, body ++ [')']))
    (hbody : read body = .ok e) (h : read ('(' :: (opening ++ (body ++ [')']))) = .ok whole) :
    whole = ⟨.group 1 (e.pattern.shift 1), name :: e.groups⟩ := by
  obtain ⟨piece, last, hread, _, rfl⟩ := exists_of_read h
  generalize hfuel : 2 * ('(' :: (opening ++ (body ++ [')']))).length + 3 = fuel at hread
  obtain ⟨n, rfl⟩ : ∃ n, fuel = n + 1 + 1 + 1 := ⟨fuel - 3, by omega⟩
  have hsettle : ∀ cs, settle {} cs = cs := fun _ => rfl
  rw [readBranches, readBranch, hsettle] at hread
  obtain ⟨branch, hbranch, hread⟩ := bind_eq_ok_iff.mp hread
  obtain ⟨r, hr, hbranch⟩ := bind_eq_ok_iff.mp hbranch
  rw [hopening r hr] at hbranch
  dsimp only at hbranch
  split at hbranch
  · cases hbranch
  · obtain ⟨⟨inner, cur⟩, hinner, hbranch⟩ := bind_eq_ok_iff.mp hbranch
    obtain ⟨hpattern, hrest, hgroups⟩ := readBranches_alone {} hbody hinner
    rcases hrest with hclosed | hopen
    · simp only [hclosed, Tail.closed, readBranch_nil] at hbranch
      cases hbranch
      cases hread
      simp [alternativesOf, branchOf, Pattern.alts, Pattern.seqs, hgroups, hpattern]
    · simp only [hopen] at hbranch
      cases hbranch

/-- A group that is all of a pattern captures all of a match. -/
theorem groupText_outermost {r : Regex} {q : Pattern} {source : String}
    (hc : Regex.compile source = .ok r) (hr : r.pattern = .group 1 q) {text : List Char} {m : Match}
    (hm : r.find? text = some m) : groupText text m 1 = some (matchText text m) := by
  obtain ⟨i, hm⟩ := matchAt_of_findFrom text List.drop_zero hm
  rw [hr] at hm
  rw [groupText_eq, group?_of_outermost (numbers_of_group hc hr).2.1 hm]
  rfl

end TemplateBench.Regex

namespace TemplateBench.TextFsm
open Text
open Regex (read_of_compile)

/-! ## Declarations -/

/-- All that a declaration which is accepted has passed. -/
structure OfParts (options : List ValueOption) (name : String) (regex : List Char)
    (d : Declaration) : Prop where
  wrapped : isWrapped regex = true
  compiles : ∃ compiled, Regex.compile (String.ofList regex) = .ok compiled
  template : d.template = Declaration.nameGroup name regex
  options : d.options = options
  name : d.name = name
  regex : d.regex = String.ofList regex

theorem ofParts_steps {options : List ValueOption} {name : String} {regex : List Char}
    {d : Declaration} (h : Declaration.ofParts options name regex = .ok d) :
    OfParts options name regex d := by
  obtain ⟨_, _, hwrapped, compiled, nested, hcompiled, _, rfl⟩ := ofParts_eq_ok_iff.mp h
  exact ⟨hwrapped, ⟨compiled, hcompiled⟩, rfl, rfl, rfl, rfl⟩

/-- **One group.** If the regex of a value stands on its own between its first and its last
character, these are one capturing group around all of it, which gets the name of the value. So the
template captures its whole match under this name. -/
theorem parse_oneGroup {line : String} {d : Declaration} (h : Declaration.parse line = .ok d)
    {body : List Char} {e : Regex.Expression} (hbody : d.regex = "(" ++ String.ofList body ++ ")")
    (he : Regex.read body = .ok e) (hname : '>' ∉ d.name.toList) :
    (∃ alone, Regex.compile d.regex = .ok alone ∧
      alone.pattern = .group 1 (e.pattern.shift 1) ∧ alone.groups = none :: e.groups) ∧
    d.template = "(?P<" ++ d.name ++ ">" ++ String.ofList body ++ ")" ∧
    ∀ r, Regex.compile d.template = .ok r →
      r.pattern = .group 1 (e.pattern.shift 1) ∧ r.groups = some d.name :: e.groups ∧
      ∀ text m, r.find? text = some m →
        (d.name, some (Regex.matchText text m)) ∈ r.namedGroups text m := by
  obtain ⟨options, name, front, regex, hd, _, _⟩ := parse_steps h
  have hsteps := ofParts_steps hd
  obtain ⟨alone, halone⟩ := hsteps.compiles
  have hregex : regex = '(' :: ([] ++ (body ++ [')'])) := by
    have htext := congrArg String.toList (hsteps.regex.symm.trans hbody)
    simpa using htext
  have htemplate : d.template = "(?P<" ++ d.name ++ ">" ++ String.ofList body ++ ")" := by
    rw [hsteps.template, hsteps.name, Declaration.nameGroup, hregex]
    simp [← String.toList_inj]
  refine ⟨⟨alone, hsteps.regex ▸ halone, ?_⟩, htemplate, fun r hr => ?_⟩
  · have hread := read_of_compile halone
    rw [String.toList_ofList, hregex] at hread
    have hplain : (body ++ [')']).head? ≠ some '?' := by
      have hhead := Regex.head?_ne_of_read he
      cases body with
      | nil => simp
      | cons c rest => simpa using hhead
    have hwhole := Regex.read_group (fun r hr => by
      rw [List.nil_append, Regex.readOpening_plain hplain] at hr
      exact (Except.ok.inj hr).symm) he hread
    exact ⟨congrArg Regex.Expression.pattern hwhole, congrArg Regex.Expression.groups hwhole⟩
  · have hread := read_of_compile hr
    have htext : d.template.toList =
        '(' :: (('?' :: 'P' :: '<' :: (d.name.toList ++ ['>'])) ++ (body ++ [')'])) := by
      rw [htemplate]
      simp
    rw [htext] at hread
    have hwhole := Regex.read_group (fun r hr => by
      have hnamed := Regex.readOpening_named hname (r := r) (by simpa using hr)
      rwa [String.ofList_toList] at hnamed) he hread
    have hpattern := congrArg Regex.Expression.pattern hwhole
    have hgroups := congrArg Regex.Expression.groups hwhole
    refine ⟨hpattern, hgroups, fun text m hm => ?_⟩
    rw [Regex.mem_namedGroups_iff]
    refine ⟨0, by rw [show r.groups = _ from hgroups]; rfl, ?_⟩
    exact (Regex.groupText_outermost hr hpattern hm).symm

/-- The groups inside of the regex of a value follow the one around it. -/
theorem parse_oneGroup_peer :
    ∃ d r, Declaration.parse "Value List Peer ((?P<ip>\\S+) as (?P<asn>\\d+))" = .ok d ∧
      Regex.compile d.template = .ok r ∧ r.groups = [some "Peer", some "ip", some "asn"] ∧
      ∀ text m, r.find? text = some m →
        ("Peer", some (Regex.matchText text m)) ∈ r.namedGroups text m := by
  have hd : ∃ d, Declaration.parse "Value List Peer ((?P<ip>\\S+) as (?P<asn>\\d+))" = .ok d ∧
      d.name = "Peer" ∧ d.regex = "(" ++ String.ofList "(?P<ip>\\S+) as (?P<asn>\\d+)".toList ++ ")" ∧
      d.template = "(?P<Peer>(?P<ip>\\S+) as (?P<asn>\\d+))" := exists_ok (by decide +kernel)
  obtain ⟨d, hparse, hname, hregex, htemplate⟩ := hd
  obtain ⟨r, hr⟩ : ∃ r, Regex.compile "(?P<Peer>(?P<ip>\\S+) as (?P<asn>\\d+))" = .ok r :=
    ⟨_, eq_ok_getD (by decide +kernel)⟩
  have he : ∃ e, Regex.read "(?P<ip>\\S+) as (?P<asn>\\d+)".toList = .ok e ∧
      e.groups = [some "ip", some "asn"] := exists_ok (by decide +kernel)
  obtain ⟨e, he, hgroups⟩ := he
  obtain ⟨-, -, hgroup⟩ := parse_oneGroup hparse hregex he (by rw [hname]; decide)
  obtain ⟨-, hnames, hmatch⟩ := hgroup r (htemplate ▸ hr)
  rw [hname, hgroups] at hnames
  exact ⟨d, r, hparse, htemplate ▸ hr, hnames, hname ▸ hmatch⟩

/-- A regex of two groups begins with a parenthesis and ends with one, and so it is accepted. The
name is given to its first group, which captures a part of the match. -/
theorem parse_twoGroups :
    ∃ d r m, Declaration.parse "Value X (a)(b)" = .ok d ∧ d.template = "(?P<X>a)(b)" ∧
      Regex.compile d.template = .ok r ∧ r.find? "ab".toList = some m ∧
      Regex.matchText "ab".toList m = "ab" ∧ r.namedGroups "ab".toList m = [("X", some "a")] := by
  have hd : ∃ d, Declaration.parse "Value X (a)(b)" = .ok d ∧ d.template = "(?P<X>a)(b)" :=
    exists_ok (by decide +kernel)
  obtain ⟨d, hparse, htemplate⟩ := hd
  have hr : ∃ r, Regex.compile "(?P<X>a)(b)" = .ok r ∧ (r.find? "ab".toList).any (fun m =>
      Regex.matchText "ab".toList m == "ab" &&
        r.namedGroups "ab".toList m == [("X", some "a")]) = true := exists_ok (by decide +kernel)
  obtain ⟨r, hr, hmatch⟩ := hr
  obtain ⟨m, hm, hcaptured⟩ := (Option.any_eq_true _ _).mp hmatch
  rw [Bool.and_eq_true, beq_iff_eq, beq_iff_eq] at hcaptured
  exact ⟨d, r, m, hparse, htemplate, htemplate ▸ hr, hm, hcaptured⟩

end TemplateBench.TextFsm
