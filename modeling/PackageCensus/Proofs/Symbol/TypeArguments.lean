import PackageCensus.Proofs.Symbol.Joined

/-! # Names with type arguments

The last slash before the first call is looked for in the whole of a name, also where it has type
arguments.  A slash in them that no call stands before is taken for one of the path
(`path_of_lastSlash`): what is charged is not the package of the name, but a text that begins with this
package, the name and a part of its type arguments.  Without such a slash the name divides at the end of
its path (`IsPath.parts_append`), and so it does whenever the type arguments belong to a receiver, which
opens a call before them. -/

namespace PackageCensus.QualifiedName

/-- Paths of packages. -/
structure IsPath (path : List String) : Prop where
  segments : ∀ s ∈ path, '/' ∉ s.toList ∧ '(' ∉ s.toList
  last : ∀ s ∈ path.getLast?, '.' ∉ s.toList
  ne_empty : "/".intercalate path ≠ ""

namespace IsPath

variable {path : List String} (h : IsPath path)
include h

theorem ne_nil : path.map String.toList ≠ [] := by
  intro hnil
  rw [List.map_eq_nil_iff.mp hnil] at h
  exact h.ne_empty rfl

theorem not_mem : '(' ∉ ("/".intercalate path).toList := by
  rw [String.toList_intercalate]
  exact notMem_intercalate (by decide) (List.forall_mem_map.mpr fun s hs => (h.segments s hs).2)

/-- A local name without a slash before its first call is divided from the path. -/
theorem parts_append {name : String} (call : '/' ∉ beforeCall name.toList) :
    parts ("/".intercalate path ++ "." ++ name) =
      (path, String.ofList (dropSignature name.toList)) := by
  have hslash : ∀ s ∈ path.map String.toList, '/' ∉ s :=
    List.forall_mem_map.mpr fun s hs => (h.segments s hs).1
  have hopen : ∀ s ∈ path.map String.toList, '(' ∉ s :=
    List.forall_mem_map.mpr fun s hs => (h.segments s hs).2
  have hdot : '.' ∉ (path.map String.toList).getLast h.ne_nil := by
    rw [List.getLast_map]
    exact h.last _ (List.getLast?_eq_some_getLast _)
  have htext : ("/".intercalate path).toList = ['/'].intercalate (path.map String.toList) :=
    String.toList_intercalate
  have hne : ['/'].intercalate (path.map String.toList) ≠ [] := by
    rw [← htext]
    exact mt String.toList_eq_nil_iff.mp h.ne_empty
  have hq : ("/".intercalate path ++ "." ++ name).toList =
      ['/'].intercalate (path.map String.toList) ++ '.' :: name.toList := by
    rw [← htext]
    simp
  rw [parts_eq, hq, split_joined h.ne_nil hslash hopen hdot hne call, List.map_map]
  simp [Function.comp_def]

end IsPath

/-! ### Local names -/

theorem beforeCall_append_of_notMem {u v : List Char} (hu : '(' ∉ u) :
    beforeCall (u ++ v) = u ++ beforeCall v := List.takeWhile_append_of_pos (bne_of_notMem hu)

/-- The first call in type arguments, if there is one, comes before the bracket that closes them. -/
theorem slash_mem_beforeCall_concat (a : List Char) :
    '/' ∈ beforeCall (a ++ [']']) ↔ '/' ∈ beforeCall a := by
  by_cases hopen : '(' ∈ a
  · obtain ⟨u, v, rfl, hu⟩ := List.eq_append_cons_of_mem hopen
    rw [List.append_assoc, List.cons_append, beforeCall, beforeCall, takeWhile_ne_append hu,
      takeWhile_ne_append hu]
  · have last : beforeCall [']'] = [']'] := rfl
    have all : beforeCall a = a := List.takeWhile_eq_self_iff.mpr (bne_of_notMem hopen)
    rw [beforeCall_append_of_notMem hopen, last, all]
    simp

/-- A name with type arguments. -/
def instantiated (f a : String) : String := f ++ "[" ++ a ++ "]"

theorem toList_instantiated (f a : String) :
    (instantiated f a).toList = f.toList ++ '[' :: (a.toList ++ [']']) := by
  simp [instantiated]

section Instantiated

variable {f : String} (plain : '/' ∉ f.toList ∧ '(' ∉ f.toList)
include plain

theorem beforeCall_instantiated (a : String) : beforeCall (instantiated f a).toList =
    f.toList ++ '[' :: beforeCall (a.toList ++ [']']) := by
  rw [toList_instantiated, beforeCall_append_of_notMem plain.2]
  rfl

theorem slash_mem_beforeCall_instantiated (a : String) :
    '/' ∈ beforeCall (instantiated f a).toList ↔ '/' ∈ beforeCall a.toList := by
  rw [beforeCall_instantiated plain, ← slash_mem_beforeCall_concat]
  simp [plain.1]

end Instantiated

theorem dropSignature_instantiated (f a : String) :
    dropSignature (instantiated f a).toList = (instantiated f a).toList := by
  have closed : (instantiated f a).toList = (f.toList ++ '[' :: a.toList) ++ [']'] := by
    rw [toList_instantiated, List.append_assoc, List.cons_append]
  refine dropSignature_of_getLast? ?_
  rw [closed, List.getLast?_concat]
  decide

/-- A method is divided from the path whatever its receiver is. -/
theorem IsPath.parts_method {path : List String} (h : IsPath path) (receiver : String)
    {method : String} (hm : ')' ∉ method.toList) :
    parts ("/".intercalate path ++ "." ++ ("(" ++ receiver ++ ")." ++ method)) =
      (path, "(" ++ receiver ++ ")." ++ method) := by
  have hname : ("(" ++ receiver ++ ")." ++ method).toList =
      ('(' :: (receiver.toList ++ [')'])) ++ '.' :: method.toList := by simp
  have call : '/' ∉ beforeCall ("(" ++ receiver ++ ")." ++ method).toList := by
    rw [hname]
    exact List.not_mem_nil
  have last : ("(" ++ receiver ++ ")." ++ method).toList.getLast? ≠ some ')' := by
    rw [hname, List.getLast?_append_of_ne_nil _ (List.cons_ne_nil _ _)]
    intro closing
    rcases List.mem_cons.mp (List.mem_of_getLast? closing) with hdot | hmem
    · cases hdot
    · exact hm hmem
  rw [h.parts_append call, dropSignature_of_getLast? last, String.ofList_toList]

/-! ### Slashes before the first call -/

/-- With a slash before its first call a name has a path that ends at the first dot behind the last such
slash, or at this slash if there is none. -/
theorem path_of_lastSlash {q u v : List Char} (hq : beforeCall q = u ++ '/' :: v) (hv : '/' ∉ v)
    (hne : u ≠ []) : (split q).1 =
      (u ++ if '.' ∈ v then '/' :: v.takeWhile (· != '.') else []).splitOnP (· == '/') := by
  obtain ⟨call, hcall, hopen⟩ := beforeCall_append q
  rw [hq] at hcall hopen
  have hdrop : (u ++ '/' :: v).drop u.length = '/' :: v := List.drop_left
  by_cases hdot : '.' ∈ v
  · obtain ⟨w, x, rfl, hw⟩ := List.eq_append_cons_of_mem hdot
    have hdivision : division q = (u ++ '/' :: w).length := by
      have first : firstDot ('/' :: (w ++ '.' :: x)) = w.length + 1 :=
        firstDot_append (u := '/' :: w) (by simp [hw])
      simp only [division, hq, lastSlash_append hv, hdrop, first, List.length_append,
        List.length_cons]
    have hwhole : q = (u ++ '/' :: w) ++ '.' :: (x ++ call) := by
      conv_lhs => rw [hcall]
      simp
    rw [split_of_division hwhole hdivision.symm (by simp), if_pos hdot, takeWhile_ne_append hw]
  · have hdivision : division q = u.length := by
      have first : firstDot ('/' :: v) = 0 := firstDot_of_notMem (by simp [hdot])
      simp only [division, hq, lastSlash_append hv, hdrop, first, Nat.add_zero]
    have hwhole : q = u ++ '/' :: (v ++ call) := by
      conv_lhs => rw [hcall]
      simp
    rw [split_of_division hwhole hdivision.symm hne, if_neg hdot, List.append_nil]

section Charged

variable {path : List String} {f a : String} (h : IsPath path)
  (plain : '/' ∉ f.toList ∧ '(' ∉ f.toList)
include h plain

/-- What is charged for a name with a slash in its type arguments before any call. -/
theorem package_instantiated {u v : List Char}
    (slash : beforeCall (a.toList ++ [']']) = u ++ '/' :: v) (hv : '/' ∉ v) :
    "/".intercalate (parts ("/".intercalate path ++ "." ++ instantiated f a)).1 =
      "/".intercalate path ++ "." ++ f ++ "[" ++
        String.ofList (u ++ if '.' ∈ v then '/' :: v.takeWhile (· != '.') else []) := by
  have hq : ("/".intercalate path ++ "." ++ instantiated f a).toList =
      ("/".intercalate path).toList ++ '.' :: (instantiated f a).toList := by simp
  have hhead : beforeCall ("/".intercalate path ++ "." ++ instantiated f a).toList =
      (("/".intercalate path).toList ++ '.' :: (f.toList ++ '[' :: u)) ++ '/' :: v := by
    have name : beforeCall ('.' :: (instantiated f a).toList) =
        '.' :: beforeCall (instantiated f a).toList := rfl
    rw [hq, beforeCall_append_of_notMem h.not_mem, name, beforeCall_instantiated plain, slash]
    simp
  rw [parts_eq, path_of_lastSlash hhead hv (by simp), intercalate_splitOnP, ← String.toList_inj]
  simp

/-- The package of a name is charged exactly if no slash in the type arguments stands before a call. -/
theorem package_instantiated_iff :
    "/".intercalate (parts ("/".intercalate path ++ "." ++ instantiated f a)).1 =
      "/".intercalate path ↔ '/' ∉ beforeCall a.toList := by
  constructor
  · intro same slash
    obtain ⟨hnone, -⟩ | ⟨u, v, hhead, hv, -⟩ := lastSlash_spec (beforeCall (a.toList ++ [']']))
    · exact hnone ((slash_mem_beforeCall_concat _).mpr slash)
    · rw [package_instantiated h plain hhead hv] at same
      have longer := congrArg String.length same
      simp only [String.length_append] at longer
      have dot : ".".length = 1 := rfl
      omega
  · intro slashless
    have call := mt (slash_mem_beforeCall_instantiated plain a).mp slashless
    rw [h.parts_append call]

end Charged

/-! ### Type arguments -/

/-- A name with type arguments is divided at the end of its path exactly if no slash in them stands
before a call, and only then is its package charged.  Otherwise what is charged is the package, the name
and its type arguments up to the first dot behind the last such slash, or up to this slash.  As part of
the receiver of a method, the same type arguments make no difference. -/
theorem typeArguments_charged {path : List String} {f a : String} (h : IsPath path)
    (plain : '/' ∉ f.toList ∧ '(' ∉ f.toList) :
    (parts ("/".intercalate path ++ "." ++ instantiated f a) = (path, instantiated f a) ↔
      '/' ∉ beforeCall a.toList) ∧
    ("/".intercalate (parts ("/".intercalate path ++ "." ++ instantiated f a)).1 =
      "/".intercalate path ↔ '/' ∉ beforeCall a.toList) ∧
    (∀ u v, beforeCall (a.toList ++ [']']) = u ++ '/' :: v → '/' ∉ v →
      "/".intercalate (parts ("/".intercalate path ++ "." ++ instantiated f a)).1 =
        "/".intercalate path ++ "." ++ f ++ "[" ++
          String.ofList (u ++ if '.' ∈ v then '/' :: v.takeWhile (· != '.') else [])) ∧
    ∀ star method : String, ')' ∉ method.toList →
      parts ("/".intercalate path ++ "." ++ ("(" ++ (star ++ instantiated f a) ++ ")." ++ method)) =
        (path, "(" ++ (star ++ instantiated f a) ++ ")." ++ method) := by
  have package := package_instantiated_iff h plain (a := a)
  refine ⟨⟨fun divided => ?_, fun slashless => ?_⟩, package, fun u v => package_instantiated h plain,
    fun star method => h.parts_method (star ++ instantiated f a)⟩
  · rw [← package, divided]
  · have call := mt (slash_mem_beforeCall_instantiated plain a).mp slashless
    rw [h.parts_append call, dropSignature_instantiated, String.ofList_toList]

/-- A function that is instantiated with a type of another package, and a method of such a receiver. -/
theorem typeArguments_charged_key :
    let path := ["example.com", "app"]
    let a := "int,example.com/lib.Key"
    IsPath path ∧ ('/' ∉ "Map".toList ∧ '(' ∉ "Map".toList) ∧
      parts "example.com/app.Map[int,example.com/lib.Key]" ≠ (path, instantiated "Map" a) ∧
      "/".intercalate (parts "example.com/app.Map[int,example.com/lib.Key]").1 =
        "example.com/app.Map[int,example.com/lib" ∧
      parts "example.com/app.(*Map[int,example.com/lib.Key]).Get" =
        (path, "(*Map[int,example.com/lib.Key]).Get") := by
  intro path a
  have h : IsPath path := ⟨by decide +kernel, by decide +kernel, by decide +kernel⟩
  have plain : '/' ∉ "Map".toList ∧ '(' ∉ "Map".toList := by decide +kernel
  have slash : '/' ∈ beforeCall a.toList := by decide +kernel
  obtain ⟨divided, -, charged, method⟩ := typeArguments_charged (a := a) h plain
  refine ⟨h, plain, fun same => divided.mp same slash, ?_, method "*" "Get" (by decide +kernel)⟩
  exact charged "int,example.com".toList "lib.Key]".toList (by decide +kernel) (by decide +kernel)

/-- It is not so that type arguments leave a name to the package that it begins with. -/
theorem typeArguments_move :
    parts ("main" ++ "." ++ instantiated "Map" "example.com/lib.Key") =
        (["main.Map[example.com", "lib"], "Key]") ∧
      parts ("main" ++ "." ++ instantiated "Map" "example.com/lib.Key") ≠
        (["main"], instantiated "Map" "example.com/lib.Key") ∧
      parts ("main" ++ "." ++ "(*" ++ instantiated "Map" "example.com/lib.Key" ++ ").M") =
        (["main"], "(*Map[example.com/lib.Key]).M") := by
  decide +kernel

end PackageCensus.QualifiedName
