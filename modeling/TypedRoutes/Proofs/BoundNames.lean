import Mathlib
import TypedRoutes.Command.Generate
import TypedRoutes.Proofs.EmittedLiterals
import TypedRoutes.Proofs.UnitPaths

/-! The names that a generated unit binds. Validation looks at the names of a
manifest, while a unit binds names that are made from them: they are split,
uppercased and suffixed, and taken from stored properties only. Each of these
steps leaves a usable name usable, so validation is enough for all positions. -/
namespace TypedRoutes.BoundNames
open Pipeline Kotlin Route PassExecution PassOutcome SoundManifests UsableNames

/-- A name that passes the check of names, wherever in a manifest it is made.
Names that generated code makes up are held to the same check as those that the
manifest gives. -/
def Passes (name : String) : Prop :=
  ∀ (scope : Manifest.Scope) (kind : String), scope.checkName name kind = .ok ()

private theorem passes_usable {name : String} (usable : isUsable name = true) : Passes name :=
  fun _ _ => checkName_ok.mpr usable

/-! ## Names made from usable names -/

private theorem continues_ascii {c : Char} (goesOn : Continues c) : c.toNat < 128 := by
  have below : ∀ last : Char, last.toNat < 128 → c ≤ last → c.toNat < 128 :=
    fun last small upTo => Nat.lt_of_le_of_lt (UInt32.le_iff_toNat_le.mp upTo) small
  rcases goesOn with (⟨-, upTo⟩ | ⟨-, upTo⟩) | ⟨-, upTo⟩ | rfl
  · exact below 'z' (by decide) upTo
  · exact below 'Z' (by decide) upTo
  · exact below '9' (by decide) upTo
  · decide

private theorem letter_upper {c : Char} (letter : IsLetter c) : IsLetter c.toUpper := by
  rw [← isAlpha_iff] at letter ⊢
  rw [Char.isAlpha_toUpper_eq_isAlpha]
  exact letter

private theorem upper_kept {c : Char} (other : ¬ IsLetter c) : c.toUpper = c := by
  apply Char.toUpper_eq_of_not_isLower
  intro lower
  rw [← isAlpha_iff, Char.isAlpha, lower, Bool.or_true] at other
  exact other rfl

private theorem starts_upper {c : Char} (start : Starts c) : Starts c.toUpper := by
  rcases start with letter | rfl
  · exact .inl (letter_upper letter)
  · exact .inr rfl

private theorem continues_upper {c : Char} (goesOn : Continues c) : Continues c.toUpper := by
  by_cases letter : IsLetter c
  · exact .inl (letter_upper letter)
  · rw [upper_kept letter]
    exact goesOn

private theorem visible_upper {c : Char} (visible : c ≠ '_') : c.toUpper ≠ '_' := by
  by_cases letter : IsLetter c
  · intro same
    have underscore : ¬ IsLetter '_' := by
      rw [← isAlpha_iff]
      decide
    exact underscore (same ▸ letter_upper letter)
  · rw [upper_kept letter]
    exact visible

variable {name : String}

/-- The uppercase form of a usable name goes letter by letter. Names outside
ASCII could change their length, and they are not usable. -/
theorem upper_spelled (usable : Usable name) :
    (Text.upper name).toList = name.toList.map Char.toUpper := by
  rw [Text.upper, String.toList_ofList, List.map_eq_flatMap]
  apply List.flatMap_congr
  intro c member
  exact Text.upperChar_ascii (continues_ascii (usable.characters c member))

/-- No keyword is all in capitals, so no constant is named by one. -/
theorem keyword_lower : ∀ keyword ∈ keywords, ∃ c ∈ keyword.toList, c.isLower = true := by
  simp [keywords]

private theorem keyword_short : ∀ keyword ∈ keywords, keyword.toList.length ≤ 9 := by
  simp [keywords]

/-- The name of a constant is usable when that of its field is. -/
theorem usable_upper (usable : Usable name) : Usable (Text.upper name) where
  free keyword := by
    obtain ⟨c, member, lower⟩ := keyword_lower _ keyword
    rw [upper_spelled usable] at member
    obtain ⟨original, -, rfl⟩ := List.mem_map.mp member
    rw [Char.isLower_toUpper_eq_false] at lower
    cases lower
  nonempty empty := by
    have none := upper_spelled usable
    rw [empty] at none
    exact usable.nonempty (String.toList_eq_nil_iff.mp (List.map_eq_nil_iff.mp none.symm))
  start := by
    rw [upper_spelled usable, List.head?_map]
    intro first found
    obtain ⟨original, head, rfl⟩ := Option.map_eq_some_iff.mp found
    exact starts_upper (usable.start original head)
  characters := by
    rw [upper_spelled usable]
    exact List.forall_mem_map.mpr fun c member => continues_upper (usable.characters c member)
  visible := by
    obtain ⟨c, member, visible⟩ := usable.visible
    rw [upper_spelled usable]
    exact ⟨c.toUpper, List.mem_map_of_mem member, visible_upper visible⟩

/-- A usable name stays usable with a suffix that is too long for a keyword.
Objects are named like this. -/
theorem usable_suffixed {suffix : String} (usable : Usable name)
    (characters : ∀ c ∈ suffix.toList, Continues c) (long : 9 < suffix.toList.length) :
    Usable (name ++ suffix) where
  free keyword := by
    have short := keyword_short _ keyword
    rw [String.toList_append, List.length_append] at short
    omega
  nonempty empty := usable.nonempty (String.append_eq_empty_iff.mp empty).1
  start := by
    have spelled : name.toList ≠ [] :=
      fun none => usable.nonempty (String.toList_eq_nil_iff.mp none)
    rw [String.toList_append, List.head?_append_of_ne_nil _ spelled]
    exact usable.start
  characters := by
    rw [String.toList_append]
    exact List.forall_mem_append.mpr ⟨usable.characters, characters⟩
  visible := by
    obtain ⟨c, member, visible⟩ := usable.visible
    rw [String.toList_append]
    exact ⟨c, List.mem_append_left _ member, visible⟩

/-! ## What a unit declares -/

/-- The code of a unit: a file, its object, and the functions of that by role.
-/
structure UnitCode where
  file : SourceFile
  object : Object
  destination : Function
  route : Function
  extractors : List Function

/-- A unit whose text is that of a file with a single object, which has a key
function, a route function, extractors and the helper. Through it, what is said
of the object is said of the text. -/
structure BuiltUp (unit : GeneratedUnit) (code : UnitCode) : Prop where
  content : unit.content = code.file.renderBelow generatedHeader
  package : code.file.package = unit.package
  body : code.file.body = [[code.object.fragment]]
  functions : code.object.functions =
    code.destination :: code.route :: (code.extractors ++ [encodeFunction])

/-- Where the names in a unit come from: the declaration, its stored properties
in their order, and the parameter that extractors read. No name comes from
anywhere else. -/
structure NamedAfter (declaration : Manifest.Declaration) (param : String)
    (unit : GeneratedUnit) (code : UnitCode) : Prop where
  source : unit.source = declaration.id
  package : unit.package = declaration.package
  object : code.object.name = declaration.name ++ "Destination"
  constants : code.object.properties.map (·.name) =
    declaration.storedProperties.map fun property => Text.upper property.name
  destination : code.destination.name = "destination" ∧ code.destination.params = []
  route : code.route.name = "route"
  params : code.route.params.map (·.name) = declaration.storedProperties.map (·.name)
  /-- Some stored properties have no extractor. -/
  extractors : (code.extractors.map (·.name)).Sublist (declaration.storedProperties.map (·.name))
  containers : ∀ extractor ∈ code.extractors, extractor.params.map (·.name) = [param]

/-- Names that can stand where a unit binds them. Parameters of the route
function do not share a name, and neither do extractors; constants may. -/
structure UsableBindings (unit : GeneratedUnit) (code : UnitCode) : Prop where
  package : unit.package = "" ∨ ∀ segment ∈ Text.segments unit.package, Passes segment
  object : Passes code.object.name
  constants : ∀ constant ∈ code.object.properties, Passes constant.name
  functions : ∀ function ∈ code.object.functions, Passes function.name
  params : ∀ function ∈ code.object.functions, ∀ param ∈ function.params, Passes param.name
  paramsDistinct : (code.route.params.map (·.name)).Nodup
  extractorsDistinct : (code.extractors.map (·.name)).Nodup

/-- A unit of a declaration of the manifest that binds usable names only. -/
def BindsUsable (manifest : Manifest) (unit : GeneratedUnit) : Prop :=
  ∃ declaration ∈ manifest.declarations, ∃ code, BuiltUp unit code ∧
    NamedAfter declaration manifest.settings.containerParam unit code ∧ UsableBindings unit code

/-- The code that is emitted for a descriptor, with its extractors in the order
of the fields. -/
def unitCode (container : Container) (descriptor : Descriptor) : UnitCode where
  file := routeFile container descriptor
  object := routeObject container descriptor
  destination := destinationFunction (.ofDescriptor descriptor)
  route := routeFunction descriptor
  extractors := descriptor.fields.filterMap (extractor? container)

variable {declaration : Manifest.Declaration} {container : Container} {descriptor : Descriptor}
  {unit : GeneratedUnit} {code : UnitCode} {param : String}

/-- A unit that was emitted is built up from the code of its descriptor,
whatever it depends on. -/
theorem emitted_builtUp (files : List String) (container : Container) (descriptor : Descriptor) :
    BuiltUp { (emitter container).emit descriptor with dependencies := .all files }
      (unitCode container descriptor) := by
  have package : (routeFile container descriptor).package = descriptor.source.package := by
    simp only [routeFile]
    split <;> rfl
  exact ⟨rfl, package, routeFile_body container descriptor, rfl⟩

private theorem extractor_named {field : Field} {extractor : Function}
    (made : extractor? container field = some extractor) :
    extractor.name = field.name ∧ extractor.params.map (·.name) = [container.param] := by
  obtain ⟨primitive, -, rfl⟩ := Option.map_eq_some_iff.mp made
  exact ⟨rfl, rfl⟩

private theorem extractors_named (container : Container) (fields : List Field) :
    ((fields.filterMap (extractor? container)).map (·.name)).Sublist (fields.map (·.name)) := by
  induction fields with
  | nil => exact .slnil
  | cons field rest ih =>
    cases made : extractor? container field with
    | none => simpa [made] using ih.cons field.name
    | some extractor => simpa [made, (extractor_named made).1] using ih.cons_cons field.name

/-- The names in an emitted unit are those of the declaration that its
descriptor was built from. -/
theorem emitted_named {settings : Manifest.Settings} (files : List String) (container : Container)
    (built : Descriptor.ofDeclaration settings declaration = .ok descriptor) :
    NamedAfter declaration container.param
      { (emitter container).emit descriptor with dependencies := .all files }
      (unitCode container descriptor) := by
  have source := PassPartition.described_source built
  have fields := Descriptors.fields_named built
  have object : (routeObject container descriptor).name = declaration.name ++ "Destination" := by
    rw [routeObject, Descriptor.unitName, source]
    rfl
  have constants : (routeObject container descriptor).properties.map (·.name) =
      (descriptor.fields.map (·.name)).map Text.upper := by
    rw [routeObject, List.map_map, List.map_map]
    rfl
  have params : (routeFunction descriptor).params.map (·.name) = descriptor.fields.map (·.name) := by
    rw [routeFunction, List.map_map]
    rfl
  refine ⟨source, congrArg (·.package) source, object, ?_, ⟨rfl, rfl⟩, rfl, params.trans fields,
    ?_, ?_⟩
  · rw [unitCode, constants, fields, List.map_map]
    rfl
  · rw [← fields]
    exact extractors_named container descriptor.fields
  · intro extractor member
    obtain ⟨field, -, made⟩ := List.mem_filterMap.mp member
    exact (extractor_named made).2

private theorem fixed_usable :
    ∀ name ∈ ["destination", "route", encodeFunction.name], isUsable name = true := by
  decide +kernel

/-- The stored properties of a sound declaration have usable names, since all
its properties have. -/
theorem stored_usable (sound : SoundDeclaration declaration) :
    ∀ name ∈ declaration.storedProperties.map (·.name), isUsable name = true := by
  refine List.forall_mem_map.mpr fun property member => ?_
  exact sound.properties.usable property (List.mem_of_mem_filter member)

private theorem stored_distinct (sound : SoundDeclaration declaration) :
    (declaration.storedProperties.map (·.name)).Nodup :=
  sound.properties.distinct.sublist (List.filter_sublist.map _)

private theorem BuiltUp.mem_functions (builtUp : BuiltUp unit code) {function : Function} :
    function ∈ code.object.functions ↔ function = code.destination ∨ function = code.route ∨
      function ∈ code.extractors ∨ function = encodeFunction := by
  rw [builtUp.functions, List.mem_cons, List.mem_cons, List.mem_append, List.mem_singleton]

private theorem params_pass {function : Function} {names : List String}
    (given : function.params.map (·.name) = names) (usable : ∀ name ∈ names, isUsable name = true) :
    ∀ param ∈ function.params, Passes param.name := by
  intro param member
  have listed : param.name ∈ function.params.map (·.name) := List.mem_map_of_mem member
  exact passes_usable (usable param.name (given ▸ listed))

/-- Names that are made from those of a sound declaration are usable. The
parameter of extractors is the only one that does not come from the declaration.
-/
theorem NamedAfter.usable (named : NamedAfter declaration param unit code)
    (builtUp : BuiltUp unit code) (sound : SoundDeclaration declaration)
    (usable : isUsable param = true) : UsableBindings unit code := by
  have stored := stored_usable sound
  refine ⟨?_, ?_, ?_, ?_, ?_, ?_, (stored_distinct sound).sublist named.extractors⟩
  · rw [named.package]
    exact sound.package.imp_right fun segments segment member =>
      passes_usable (segments segment member)
  · have suffix : ∀ c ∈ "Destination".toList, Continues c := by
      simp [Continues, IsLetter]
    rw [named.object]
    exact passes_usable (isUsable_iff.mpr
      (usable_suffixed (isUsable_iff.mp sound.name) suffix (by decide)))
  · intro constant member
    have found : constant.name ∈ code.object.properties.map (·.name) := List.mem_map_of_mem member
    rw [named.constants] at found
    obtain ⟨property, held, same⟩ := List.mem_map.mp found
    rw [← same]
    exact passes_usable (isUsable_iff.mpr
      (usable_upper (isUsable_iff.mp (stored _ (List.mem_map_of_mem held)))))
  · intro function member
    rcases builtUp.mem_functions.mp member with rfl | rfl | extractor | rfl
    · rw [named.destination.1]
      exact passes_usable (fixed_usable _ (by simp))
    · rw [named.route]
      exact passes_usable (fixed_usable _ (by simp))
    · exact passes_usable (stored _ (named.extractors.subset (List.mem_map_of_mem extractor)))
    · exact passes_usable (fixed_usable _ (by simp))
  · intro function member
    rcases builtUp.mem_functions.mp member with rfl | rfl | extractor | rfl
    · rw [named.destination.2]
      exact List.forall_mem_nil _
    · exact params_pass named.params stored
    · exact params_pass (named.containers function extractor) (by simpa using usable)
    · exact List.forall_mem_nil _
  · rw [named.params]
    exact stored_distinct sound

/-- The units of a pass bind usable names only, under whatever settings their
declarations were found and built. -/
theorem filed_bind_usable {manifest : Manifest} (sound : Sound manifest)
    {settings : Manifest.Settings} {marker : String} {context : Context}
    (files : filed context = outcome (.ofManifest manifest) settings
      (emitter (.ofSettings manifest.settings)) marker)
    (member : unit ∈ context.units) : BindsUsable manifest unit := by
  obtain ⟨declaration, discovered, descriptor, -, built, rfl⟩ :=
    (PassPartition.unit_emitted files).mp member
  have declared : declaration ∈ manifest.declarations := List.mem_of_mem_filter discovered
  have builtUp := emitted_builtUp manifest.sourceFiles (.ofSettings manifest.settings) descriptor
  have named := emitted_named manifest.sourceFiles (.ofSettings manifest.settings) built
  exact ⟨declaration, declared, _, builtUp, named,
    named.usable builtUp (sound.declarations declaration declared) sound.containerParam⟩

/-- A pass in Kotlin over a manifest that was read from a text binds usable
names only: on its own it always comes to its end, and plugins and further
phases change nothing as long as they leave alone what is filed. -/
theorem units_bind_usable {σ : Type} {manifest : Manifest} {source file : String}
    (accepted : Manifest.parse source file = .ok manifest) :
    (∀ lints, ∃ context,
      ({ Command.kotlinGenerator manifest [] with lints } : Generator σ).run
        (.ofManifest manifest) = pure context ∧
          ∀ unit ∈ context.units, BindsUsable manifest unit) ∧
    ∀ generator : Generator σ, generator.emitter = emitter (.ofSettings manifest.settings) →
      (∀ plugin ∈ generator.plugins, Restrained plugin) →
      (∀ phase ∈ generator.phases, LeavesFiled phase.run) →
      ∀ context state final, Succeeds (generator.run (.ofManifest manifest)) state context final →
        ∀ unit ∈ context.units, BindsUsable manifest unit := by
  have sound := (parse_ok.mp accepted).2
  constructor
  · intro lints
    exact ⟨_, Generator.run_standard _ lints (.ofManifest manifest),
      fun unit => filed_bind_usable sound (settle_files lints _)⟩
  · intro generator kotlin restrained further context state final ran unit
    obtain ⟨settings, marker, files⟩ := run_files restrained further ran
    exact filed_bind_usable sound (kotlin ▸ files)

/-- A declaration whose names are keywords but for their case, with one property
of a type that is not supported. -/
def shadowingText : String :=
  "[[declaration]]\nname=\"Class\"\npackage=\"com.app\"\n" ++
  "annotations=[\x7bname=\"Destination\",args=[\"class\"]\x7d]\n" ++
  "[[declaration.properties]]\nname=\"Val\"\ntype=\"Int?\"\n" ++
  "[[declaration.properties]]\nname=\"VAL\"\ntype=\"Tags\"\n"

def shadowingManifest : Manifest where
  declarations := [
    { name := "Class"
      package := "com.app"
      markers := [⟨"Destination", ["class"]⟩]
      properties := [
        { name := "Val", type := some "Int?" },
        { name := "VAL", type := some "Tags" }] }]

private theorem shadowing_accepted :
    Manifest.parse shadowingText "wayfinder.toml" = .ok shadowingManifest :=
  parse_checked (by cbv) (by rfl)

theorem units_bind_usable_shadowing :
    Manifest.parse shadowingText "wayfinder.toml" = .ok shadowingManifest ∧
      ∃ context final,
        Succeeds ((Command.kotlinGenerator shadowingManifest [UnitPaths.counting]).run
          (.ofManifest shadowingManifest)) 0 context final ∧
        context.units.map (·.name) = ["ClassDestination"] ∧
        ∀ unit ∈ context.units, BindsUsable shadowingManifest unit := by
  refine ⟨shadowing_accepted, ?_⟩
  have shown : ((ExceptT.run ((Command.kotlinGenerator shadowingManifest
      [UnitPaths.counting]).run (.ofManifest shadowingManifest))).run 0).1.toOption.map
        (fun context => context.units.map (·.name)) = some ["ClassDestination"] := by
    decide +kernel
  obtain ⟨context, final, ran, names⟩ := succeeds_shown shown
  have restrained : ∀ plugin ∈
      (Command.kotlinGenerator shadowingManifest [UnitPaths.counting]).plugins,
      Restrained plugin := by
    intro plugin member
    have same : plugin = UnitPaths.counting := List.mem_singleton.mp member
    rw [same]
    exact UnitPaths.counting_restrained
  exact ⟨context, final, ran, names, (units_bind_usable shadowing_accepted).2 _ rfl restrained
    (List.forall_mem_nil _) context 0 final ran⟩

end TypedRoutes.BoundNames
