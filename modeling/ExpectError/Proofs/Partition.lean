import ExpectError.Proofs.Grouping

/-!
# Plans as a partition of the diagnostics

Grouping reads three things of a diagnostic, its file, its line and its message (`finding`), and the
plans hold these again, message by message (`findings`). One diagnostic more is one finding more
(`findings_addDiagnostic`), so none is lost and none is there twice (`findings_ofDiagnostics`). On
the other side plans are known by the messages that they hold at each line and by the order of their
paths (`Grouped.eq_of_messagesAt`), which is the order in which the paths are first seen
(`paths_ofDiagnostics`). So plans that are well formed are what grouping makes of their own findings
(`Grouped.ofDiagnostics_eq`).
-/

namespace ExpectError

/-- What grouping reads of a diagnostic. -/
def Diagnostic.finding (d : Diagnostic) : String × Int × String :=
  (d.path, d.line, d.message)

namespace EditPlan

/-! ## Plans by their messages -/

theorem mem_sites_iff {sites : List Site} (hdesc : Descending Site.line sites)
    (hmessages : ∀ site ∈ sites, site.messages ≠ []) {site : Site} :
    site ∈ sites ↔ site.messages = siteMessages sites site.line ∧ site.messages ≠ [] := by
  have hown : ∀ other ∈ sites, siteMessages sites other.line = other.messages := by
    intro other hother
    rw [siteMessages, filter_key_eq (nodup_lines hdesc) hother, List.flatMap_singleton]
  constructor
  · intro hsite
    exact ⟨(hown site hsite).symm, hmessages site hsite⟩
  · rintro ⟨heq, hne⟩
    have hline : ∃ other ∈ sites, other.line = site.line := by
      by_contra hnone
      push Not at hnone
      exact hne (heq.trans (siteMessages_eq_nil hnone))
    obtain ⟨other, hother, hline⟩ := hline
    have hsame : other = site := by
      obtain ⟨line, messages⟩ := site
      obtain ⟨line', messages'⟩ := other
      obtain rfl : line' = line := hline
      have := hown _ hother
      simp_all
    exact hsame ▸ hother

theorem sites_ext {sites sites' : List Site} (hdesc : Descending Site.line sites)
    (hdesc' : Descending Site.line sites') (hmessages : ∀ site ∈ sites, site.messages ≠ [])
    (hmessages' : ∀ site ∈ sites', site.messages ≠ [])
    (h : ∀ line, siteMessages sites line = siteMessages sites' line) : sites = sites' := by
  have hperm : sites.Perm sites' := by
    have hnodup : ∀ {sites : List Site}, Descending Site.line sites → sites.Nodup :=
      fun hdesc => (nodup_lines hdesc).of_map
    rw [List.perm_ext_iff_of_nodup (hnodup hdesc) (hnodup hdesc')]
    intro site
    rw [mem_sites_iff hdesc hmessages, mem_sites_iff hdesc' hmessages', h]
  refine hperm.eq_of_pairwise (fun a b _ _ hab hba => ?_) hdesc hdesc'
  exact absurd hab (lt_asymm hba)

section Grouped

variable {plans plans' : List EditPlan} (h : Grouped plans) (h' : Grouped plans')

include h

theorem Grouped.messagesAt_eq {plan : EditPlan} (hplan : plan ∈ plans) (line : Int) :
    messagesAt plans plan.path line = siteMessages plan.sites line := by
  rw [messagesAt, filter_key_eq h.paths hplan, List.flatMap_singleton]

include h'

theorem Grouped.mem_of_messagesAt
    (hmessages : ∀ path line, messagesAt plans path line = messagesAt plans' path line)
    {plan : EditPlan} (hplan : plan ∈ plans) : plan ∈ plans' := by
  obtain ⟨site, hsite⟩ := List.exists_mem_of_ne_nil _ (h.sites plan hplan)
  obtain ⟨message, hmessage⟩ :=
    List.exists_mem_of_ne_nil _ (h.messages plan hplan site hsite)
  have hmem : message ∈ messagesAt plans plan.path site.line :=
    mem_messagesAt_iff.mpr ⟨plan, hplan, rfl, site, hsite, rfl, hmessage⟩
  rw [hmessages] at hmem
  -- the plan that holds the message on the other side has the same messages at every line
  obtain ⟨plan', hplan', hpath, -⟩ := mem_messagesAt_iff.mp hmem
  have hsites : plan'.sites = plan.sites := by
    refine sites_ext (h'.descending plan' hplan') (h.descending plan hplan)
      (h'.messages plan' hplan') (h.messages plan hplan) fun line => ?_
    rw [← h'.messagesAt_eq hplan', ← h.messagesAt_eq hplan, hpath, hmessages]
  have hsame : plan' = plan := by
    obtain ⟨path, sites⟩ := plan
    obtain ⟨path', sites'⟩ := plan'
    simp_all
  exact hsame ▸ hplan'

theorem Grouped.perm_of_messagesAt
    (hmessages : ∀ path line, messagesAt plans path line = messagesAt plans' path line) :
    plans.Perm plans' := by
  rw [List.perm_ext_iff_of_nodup h.paths.of_map h'.paths.of_map]
  exact fun plan => ⟨h.mem_of_messagesAt h' hmessages,
    h'.mem_of_messagesAt h fun path line => (hmessages path line).symm⟩

end Grouped

/-- **Grouping forgets the order of diagnostics at different lines**, but for the order of the
plans. -/
theorem ofDiagnostics_perm {ds ds' : List Diagnostic}
    (h : ∀ path line,
      (ds'.filter fun d => d.path = path ∧ d.line = line).map Diagnostic.message =
        (ds.filter fun d => d.path = path ∧ d.line = line).map Diagnostic.message) :
    (ofDiagnostics ds').Perm (ofDiagnostics ds) := by
  have hgrouped := ofDiagnostics_grouped ds
  refine (ofDiagnostics_grouped ds').perm_of_messagesAt hgrouped fun path line => ?_
  rw [messagesAt_ofDiagnostics, messagesAt_ofDiagnostics, h]

/-! ## Files and lines -/

/-- The lines of files that plans have sites for. -/
def places (plans : List EditPlan) : List (String × Int) :=
  plans.flatMap fun plan => plan.sites.map fun site => (plan.path, site.line)

theorem length_places (plans : List EditPlan) :
    (places plans).length = (plans.flatMap EditPlan.sites).length := by
  induction plans with
  | nil => rfl
  | cons plan plans ih =>
    rw [places, List.flatMap_cons, List.flatMap_cons, List.length_append, List.length_append,
      List.length_map, ← ih]
    rfl

theorem places_nodup {plans : List EditPlan} (h : Grouped plans) : (places plans).Nodup := by
  rw [places, List.nodup_flatMap]
  refine ⟨fun plan hplan => ?_, ?_⟩
  · have hlines := nodup_lines (h.descending plan hplan)
    refine List.Nodup.of_map Prod.snd ?_
    rw [List.map_map]
    exact hlines
  · refine (List.pairwise_map.mp h.paths).imp fun {plan other} hne => ?_
    intro place hplace hother
    obtain ⟨site, -, rfl⟩ := List.mem_map.mp hplace
    obtain ⟨site', -, heq⟩ := List.mem_map.mp hother
    exact hne (Prod.mk.inj heq).1.symm

theorem places_ofDiagnostics (ds : List Diagnostic) :
    (places (ofDiagnostics ds)).toFinset = (ds.map fun d => (d.path, d.line)).toFinset := by
  ext ⟨path, line⟩
  simp only [places, List.mem_toFinset, List.mem_flatMap, List.mem_map, Prod.mk.injEq]
  constructor
  · rintro ⟨plan, hplan, site, hsite, rfl, rfl⟩
    exact exists_diagnostic_of_site hplan hsite
  · rintro ⟨d, hd, rfl, rfl⟩
    obtain ⟨plan, hplan, hpath, site, hsite, hline, -⟩ := exists_site hd
    exact ⟨plan, hplan, site, hsite, hpath, hline⟩

theorem paths_addDiagnostic (d : Diagnostic) (plans : List EditPlan) :
    (addDiagnostic d plans).map EditPlan.path =
      plans.map EditPlan.path ++ if d.path ∈ plans.map EditPlan.path then [] else [d.path] := by
  induction plans with
  | nil => rfl
  | cons plan plans ih =>
    rw [addDiagnostic]
    by_cases heq : plan.path = d.path
    · simp [heq]
    · simp [heq, ih, Ne.symm heq]

theorem paths_ofDiagnostics (ds : List Diagnostic) :
    (ofDiagnostics ds).map EditPlan.path = (ds.map Diagnostic.path).eraseDups := by
  induction ds using List.reverseRecOn with
  | nil => rfl
  | append_singleton ds d ih =>
    have hfold : ofDiagnostics (ds ++ [d]) = addDiagnostic d (ofDiagnostics ds) := by
      rw [ofDiagnostics, List.foldl_append]
      rfl
    rw [hfold, paths_addDiagnostic, ih, List.map_append, List.eraseDups_append]
    by_cases hseen : d.path ∈ ds.map Diagnostic.path
    · have hremove : [d.path].removeAll (ds.map Diagnostic.path) = [] := by
        simp [List.removeAll, List.mem_map.mp hseen]
      rw [if_pos (List.mem_eraseDups.mpr hseen), List.map_singleton, hremove]
      rfl
    · have hremove : [d.path].removeAll (ds.map Diagnostic.path) = [d.path] := by
        simp [List.removeAll, mt List.mem_map.mpr hseen]
      rw [if_neg (mt List.mem_eraseDups.mp hseen), List.map_singleton, hremove]
      rfl

/-! ## Message by message -/

/-- The messages of sites, each with its line. -/
def siteFindings (sites : List Site) : List (Int × String) :=
  sites.flatMap fun site => site.messages.map fun message => (site.line, message)

/-- The messages of plans, each with its file and its line. -/
def findings (plans : List EditPlan) : List (String × Int × String) :=
  plans.flatMap fun plan => (siteFindings plan.sites).map fun found => (plan.path, found)

theorem siteFindings_cons (site : Site) (sites : List Site) :
    siteFindings (site :: sites) =
      site.messages.map (fun message => (site.line, message)) ++ siteFindings sites :=
  List.flatMap_cons

theorem findings_cons (plan : EditPlan) (plans : List EditPlan) :
    findings (plan :: plans) =
      (siteFindings plan.sites).map (fun found => (plan.path, found)) ++ findings plans :=
  List.flatMap_cons

theorem siteFindings_addMessage (line : Int) (message : String) (sites : List Site) :
    (siteFindings (addMessage line message sites)).Perm
      ((line, message) :: siteFindings sites) := by
  induction sites with
  | nil => exact List.Perm.refl _
  | cons site sites ih =>
    rw [addMessage]
    split_ifs with heq hlt
    · rw [siteFindings_cons, siteFindings_cons, heq, List.map_append, List.append_assoc]
      exact List.perm_middle
    · exact List.Perm.refl _
    · rw [siteFindings_cons, siteFindings_cons]
      exact (ih.append_left _).trans List.perm_middle

theorem findings_addDiagnostic (d : Diagnostic) (plans : List EditPlan) :
    (findings (addDiagnostic d plans)).Perm (d.finding :: findings plans) := by
  induction plans with
  | nil => exact List.Perm.refl _
  | cons plan plans ih =>
    rw [addDiagnostic]
    split_ifs with heq
    · rw [findings_cons, findings_cons, Diagnostic.finding, ← heq, ← List.cons_append]
      exact ((siteFindings_addMessage d.line d.message plan.sites).map _).append_right _
    · rw [findings_cons, findings_cons]
      exact (ih.append_left _).trans List.perm_middle

theorem findings_foldl (ds : List Diagnostic) (plans : List EditPlan) :
    (findings (ds.foldl (fun plans d => addDiagnostic d plans) plans)).Perm
      (findings plans ++ ds.map Diagnostic.finding) := by
  induction ds generalizing plans with
  | nil => simp
  | cons d ds ih =>
    rw [List.foldl_cons, List.map_cons]
    refine (ih (addDiagnostic d plans)).trans ?_
    exact ((findings_addDiagnostic d plans).append_right _).trans List.perm_middle.symm

theorem findings_ofDiagnostics (ds : List Diagnostic) :
    (findings (ofDiagnostics ds)).Perm (ds.map Diagnostic.finding) :=
  findings_foldl ds []

theorem length_findings (plans : List EditPlan) :
    (findings plans).length = (plans.map messageCount).sum := by
  rw [findings, List.length_flatMap]
  congr 2
  funext plan
  rw [List.length_map, siteFindings, messageCount, List.length_flatMap, List.length_flatMap]
  simp

/-! ## Plans from their findings -/

theorem filter_siteFindings (sites : List Site) (line : Int) :
    ((siteFindings sites).filter fun found => found.1 = line).map Prod.snd =
      siteMessages sites line := by
  induction sites with
  | nil => rfl
  | cons site sites ih =>
    rw [siteFindings_cons, siteMessages_cons, List.filter_append, List.map_append, ih,
      List.filter_map, List.map_map]
    by_cases heq : site.line = line <;> simp [heq, Function.comp_def]

theorem filter_findings (plans : List EditPlan) (path : String) (line : Int) :
    ((findings plans).filter fun found => found.1 = path ∧ found.2.1 = line).map (·.2.2) =
      messagesAt plans path line := by
  induction plans with
  | nil => rfl
  | cons plan plans ih =>
    rw [findings_cons, messagesAt_cons, List.filter_append, List.map_append, ih, List.filter_map,
      List.map_map, ← filter_siteFindings]
    by_cases heq : plan.path = path <;> simp [heq, Function.comp_def]

theorem eraseDups_repeated (path : String) {front rest : List String} (hne : front ≠ [])
    (hfront : ∀ p ∈ front, p = path) (hrest : path ∉ rest) :
    (front ++ rest).eraseDups = path :: rest.eraseDups := by
  obtain ⟨first, more, rfl⟩ := List.exists_cons_of_ne_nil hne
  obtain rfl := hfront first List.mem_cons_self
  have hmore : more.filter (fun p => !p == first) = [] := by
    rw [List.filter_eq_nil_iff]
    intro p hp
    simp [hfront p (List.mem_cons_of_mem _ hp)]
  have hkeep : rest.filter (fun p => !p == first) = rest := by
    rw [List.filter_eq_self]
    intro p hp
    simpa using ne_of_mem_of_not_mem hp hrest
  rw [List.cons_append, List.eraseDups_cons, List.filter_append, hmore, hkeep, List.nil_append]

theorem siteFindings_ne_nil {sites : List Site} (hsites : sites ≠ [])
    (hmessages : ∀ site ∈ sites, site.messages ≠ []) : siteFindings sites ≠ [] := by
  obtain ⟨site, hsite⟩ := List.exists_mem_of_ne_nil _ hsites
  obtain ⟨message, hmessage⟩ := List.exists_mem_of_ne_nil _ (hmessages site hsite)
  refine List.ne_nil_of_mem (a := (site.line, message)) ?_
  exact List.mem_flatMap.mpr ⟨site, hsite, List.mem_map_of_mem hmessage⟩

theorem Grouped.paths_findings {plans : List EditPlan} (h : Grouped plans) :
    ((findings plans).map Prod.fst).eraseDups = plans.map EditPlan.path := by
  induction plans with
  | nil => rfl
  | cons plan plans ih =>
    have hne := siteFindings_ne_nil (h.sites plan List.mem_cons_self)
      (h.messages plan List.mem_cons_self)
    rw [findings_cons, List.map_append, List.map_map, eraseDups_repeated plan.path,
      ih h.tail, List.map_cons]
    · simpa using hne
    · simp
    · intro hmem
      obtain ⟨found, hfound, hpath⟩ := List.mem_map.mp hmem
      obtain ⟨other, hother, hfound⟩ := List.mem_flatMap.mp hfound
      obtain ⟨_, -, rfl⟩ := List.mem_map.mp hfound
      exact h.head_path_ne other hother hpath

theorem Grouped.eq_of_messagesAt {plans plans' : List EditPlan} (h : Grouped plans)
    (h' : Grouped plans') (hpaths : plans.map EditPlan.path = plans'.map EditPlan.path)
    (hmessages : ∀ path line, messagesAt plans path line = messagesAt plans' path line) :
    plans = plans' := by
  have hperm := h.perm_of_messagesAt h' hmessages
  refine List.ext_getElem hperm.length_eq fun n hn hn' => ?_
  have hpath : plans[n].path = plans'[n].path := by
    simpa [hn, hn'] using congrArg (·[n]?) hpaths
  exact List.inj_on_of_nodup_map h.paths (List.getElem_mem hn)
    (hperm.mem_iff.mpr (List.getElem_mem hn')) hpath

/-- **Well-formed plans are what grouping makes of their own findings**, whatever columns and codes
the diagnostics have that are read back from them. -/
theorem Grouped.ofDiagnostics_eq {plans : List EditPlan} (h : Grouped plans)
    {again : List Diagnostic} (hagain : again.map Diagnostic.finding = findings plans) :
    ofDiagnostics again = plans := by
  refine (ofDiagnostics_grouped again).eq_of_messagesAt h ?_ fun path line => ?_
  · rw [paths_ofDiagnostics, ← h.paths_findings, ← hagain, List.map_map]
    rfl
  · rw [messagesAt_ofDiagnostics, ← filter_findings plans, ← hagain, List.filter_map, List.map_map]
    rfl

/-! ## Grouping -/

/-- **Grouping is an exact partition that keeps the order.** For every list of diagnostics: the
paths of the plans are the distinct paths, in the order in which they are first seen; the lines of a
plan descend and are those that are reported for its file; a site has the messages that are reported
for its line of its file, in their order and with repetitions, and at least one; no diagnostic is
lost and none is there twice, so the plans have as many messages as there are diagnostics; and
grouping the diagnostics that are read back from the plans, with any columns and codes, gives the
same plans. -/
theorem grouping_partitions (ds : List Diagnostic) :
    let plans := ofDiagnostics ds
    plans.map EditPlan.path = (ds.map Diagnostic.path).eraseDups ∧
    (∀ plan ∈ plans, Descending Site.line plan.sites ∧
      ∀ line, (∃ site ∈ plan.sites, site.line = line) ↔
        ∃ d ∈ ds, d.path = plan.path ∧ d.line = line) ∧
    (∀ plan ∈ plans, ∀ site ∈ plan.sites, site.messages ≠ [] ∧ site.messages =
      (ds.filter fun d => d.path = plan.path ∧ d.line = site.line).map Diagnostic.message) ∧
    (findings plans).Perm (ds.map Diagnostic.finding) ∧
    (plans.map messageCount).sum = ds.length ∧
    ∀ again : List Diagnostic, again.map Diagnostic.finding = findings plans →
      ofDiagnostics again = plans := by
  intro plans
  have hgrouped : Grouped plans := ofDiagnostics_grouped ds
  have hfindings := findings_ofDiagnostics ds
  refine ⟨paths_ofDiagnostics ds, fun plan hplan => ⟨?_, fun line => ?_⟩,
    fun plan hplan site hsite => ?_, hfindings, ?_, fun again => hgrouped.ofDiagnostics_eq⟩
  · exact hgrouped.descending plan hplan
  · constructor
    · rintro ⟨site, hsite, rfl⟩
      exact exists_diagnostic_of_site hplan hsite
    · rintro ⟨d, hd, hpath, rfl⟩
      obtain ⟨other, hother, hsame, site, hsite, hline, -⟩ := exists_site hd
      -- the plan of the diagnostic's path is the only one for it
      obtain rfl := List.inj_on_of_nodup_map hgrouped.paths hother hplan (hsame.trans hpath)
      exact ⟨site, hsite, hline⟩
  · exact ⟨hgrouped.messages plan hplan site hsite, site_messages hplan hsite⟩
  · rw [← length_findings, hfindings.length_eq, List.length_map]

/-- Two files whose diagnostics alternate, with a line that is reported twice for one of them. -/
theorem grouping_partitions_interleaved :
    let d (path : String) (line : Int) (message : String) : Diagnostic :=
      { path := path, line := line, message := message }
    let ds := [d "b" 3 "m", d "a" 1 "n", d "b" 7 "o", d "b" 3 "m"]
    let again : List Diagnostic := [⟨"b", 7, 4, "TS9", "o"⟩, ⟨"b", 3, 0, "", "m"⟩, d "b" 3 "m",
      d "a" 1 "n"]
    ofDiagnostics ds = [⟨"b", [⟨7, ["o"]⟩, ⟨3, ["m", "m"]⟩]⟩, ⟨"a", [⟨1, ["n"]⟩]⟩] ∧
    again.map Diagnostic.finding = findings (ofDiagnostics ds) ∧
    ofDiagnostics again = ofDiagnostics ds := by
  intro d ds again
  have hagain : again.map Diagnostic.finding = findings (ofDiagnostics ds) := by decide +kernel
  obtain ⟨-, -, -, -, -, hsame⟩ := grouping_partitions ds
  exact ⟨by decide +kernel, hagain, hsame again hagain⟩

end EditPlan

end ExpectError
