/-
This file holds the modes in which the server can be built and run. A mode is a
name and nine toggles: seven say how the image is built, two how the runtime is
started. Its description names what the toggles amount to.
-/

namespace ColdStart

/-- What a mode can switch on. -/
inductive Toggle where
  /-- The core runtime is compiled as one composite image. -/
  | runtimeComposite
  /-- The web framework is compiled into the composite of the runtime. -/
  | runtimeIncludesWeb
  /-- The web framework is compiled as a composite image of its own. -/
  | webComposite
  /-- The application is compiled ahead of time. -/
  | appPrecompiled
  /-- The application is compiled as a composite image. -/
  | appComposite
  /-- Runtime, framework and application are one composite. -/
  | oneBigComposite
  /-- Compiled code uses the AVX2 instructions. -/
  | appAvx2
  /-- The runtime uses code compiled ahead of time. -/
  | readyToRun
  /-- The runtime compiles in tiers. -/
  | tieredCompilation
  deriving DecidableEq, Repr

/-- All toggles, in the order in which they are declared and written. -/
def Toggle.all : List Toggle :=
  [runtimeComposite, runtimeIncludesWeb, webComposite, appPrecompiled, appComposite,
    oneBigComposite, appAvx2, readyToRun, tieredCompilation]

/-- A named combination of toggles. -/
structure Mode where
  name : String
  runtimeComposite : Bool := false
  runtimeIncludesWeb : Bool := false
  webComposite : Bool := false
  appPrecompiled : Bool := false
  appComposite : Bool := false
  oneBigComposite : Bool := false
  appAvx2 : Bool := false
  readyToRun : Bool := false
  tieredCompilation : Bool := false
  deriving DecidableEq, Repr

namespace Mode

/-- Whether a toggle is on. -/
def has (mode : Mode) : Toggle → Bool
  | .runtimeComposite => mode.runtimeComposite
  | .runtimeIncludesWeb => mode.runtimeIncludesWeb
  | .webComposite => mode.webComposite
  | .appPrecompiled => mode.appPrecompiled
  | .appComposite => mode.appComposite
  | .oneBigComposite => mode.oneBigComposite
  | .appAvx2 => mode.appAvx2
  | .readyToRun => mode.readyToRun
  | .tieredCompilation => mode.tieredCompilation

/-- The mode with this name in which exactly the toggles that pass the test are on. -/
def ofToggles (name : String) (on : Toggle → Bool) : Mode :=
  { name
    runtimeComposite := on .runtimeComposite
    runtimeIncludesWeb := on .runtimeIncludesWeb
    webComposite := on .webComposite
    appPrecompiled := on .appPrecompiled
    appComposite := on .appComposite
    oneBigComposite := on .oneBigComposite
    appAvx2 := on .appAvx2
    readyToRun := on .readyToRun
    tieredCompilation := on .tieredCompilation }

theorem has_ofToggles (name : String) (on : Toggle → Bool) (toggle : Toggle) :
    (ofToggles name on).has toggle = on toggle := by
  cases toggle <;> rfl

theorem ofToggles_has (mode : Mode) : ofToggles mode.name mode.has = mode := rfl

/-- The toggles that are on, in the order of declaration. -/
def toggles (mode : Mode) : List Toggle := Toggle.all.filter mode.has

/-! ### Description -/

/-- The word for something that may be compiled as a composite image. -/
def imageWord (composite : Bool) : String := if composite then "composite" else "default"

/-- The word for how the application is compiled. -/
def appWord (mode : Mode) : String :=
  if !mode.appPrecompiled then "JIT"
  else if !mode.appComposite then "R2R"
  else "composite"

/-- What the image is made of. -/
def imageParts (mode : Mode) : List String :=
  if mode.oneBigComposite then ["one big composite"]
  else
    [".NET Core" ++ (if mode.runtimeIncludesWeb then "+ASP.NET" else "") ++ "=" ++
      imageWord mode.runtimeComposite] ++
    (if mode.runtimeIncludesWeb then [] else ["ASP.NET=" ++ imageWord mode.webComposite]) ++
    ["APP=" ++ mode.appWord]

/-- The word for a switch. -/
def switchWord (on : Bool) : String := if on then "ON" else "OFF"

/-- All parts of the description. -/
def parts (mode : Mode) : List String :=
  mode.imageParts ++ (if mode.appAvx2 then ["AVX2"] else []) ++
    ["TC " ++ switchWord mode.tieredCompilation, "RTR " ++ switchWord mode.readyToRun]

/-- The name and what the toggles amount to. -/
def describe (mode : Mode) : String := mode.name ++ ": " ++ " / ".intercalate mode.parts

/-! ### Templates and variants -/

/-- The modes that are measured unless others are asked for. The first is the baseline. -/
def templates : List Mode := [
  { name := "baseline", readyToRun := true },
  { name := "r2r", appPrecompiled := true, readyToRun := true },
  { name := "app-composite-avx2", appPrecompiled := true, appComposite := true, appAvx2 := true,
    readyToRun := true },
  { name := "one-big-composite-avx2", appPrecompiled := true, appComposite := true,
    oneBigComposite := true, appAvx2 := true, readyToRun := true },
  { name := "r2r-platform-composite-avx2", runtimeComposite := true, runtimeIncludesWeb := true,
    webComposite := true, appPrecompiled := true, appComposite := true, appAvx2 := true,
    readyToRun := true },
  { name := "jit-platform-composite-avx2", runtimeComposite := true, runtimeIncludesWeb := true,
    webComposite := true, appAvx2 := true, readyToRun := true }]

/-- A setting of the two toggles of the runtime, and what it adds to a mode's name. -/
structure RuntimeVariant where
  suffixText : String
  readyToRun : Bool
  tieredCompilation : Bool

/-- The settings that every template is crossed with. -/
def runtimeVariants : List RuntimeVariant :=
  [⟨"-usereadytorun", true, false⟩, ⟨"-usetieredcompilation", false, true⟩,
    ⟨"-usereadytorun-and-tieredcompilation", true, true⟩]

/-- The mode under a setting of the runtime. -/
def RuntimeVariant.apply (variant : RuntimeVariant) (mode : Mode) : Mode :=
  { mode with
    name := mode.name ++ variant.suffixText
    readyToRun := variant.readyToRun
    tieredCompilation := variant.tieredCompilation }

/-- The modes, followed by all of them under each setting of the runtime. -/
def expand (modes : List Mode) : List Mode :=
  modes ++ runtimeVariants.flatMap fun variant => modes.map variant.apply

end Mode

end ColdStart
