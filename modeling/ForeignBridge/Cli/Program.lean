import ForeignBridge.Cli.Help

/-!
The commands of the tool: writing a configuration, showing a manifest, and verifying a library.
-/

namespace ForeignBridge.Cli

def helpOption : OptionRule := ⟨["-h", "--help"], .help, "show this help message and exit"⟩

def initConfig : Command :=
  { name := "init-config"
    about := "Create sample configuration file"
    operand := some ("output", "Output configuration file path")
    options := [helpOption] }

def showContract : Command :=
  { name := "show-contract"
    about := "Show a contract manifest"
    operand := some ("manifest", "Contract manifest file")
    options := [helpOption] }

def verify : Command :=
  { name := "verify"
    about := "Verify a native library against a contract manifest"
    operand := none
    options := [
      helpOption,
      ⟨["--library"], .setting [], "Path to the native library"⟩,
      ⟨["--contract"], .setting [], "Contract manifest file"⟩,
      ⟨["--all"], .switch, "Report every mismatch instead of stopping at the first"⟩] }

def tool : Tool :=
  { name := "fireflyffi"
    version := "1.0.0"
    about := "FireflyFFI - foreign-function runtime tooling"
    commandsAbout := "Available commands"
    ending := "\n".intercalate [
      "Examples:",
      "  fireflyffi init-config fireflyffi.yaml                     # Create sample config",
      "  fireflyffi show-contract contract.yaml                     # Show manifest contents",
      "  fireflyffi verify --library libwallet.so --contract contract.yaml",
      "  fireflyffi --config fireflyffi.yaml verify                 # Use configured paths",
      "        "]
    options := [
      helpOption,
      ⟨["--version"], .version, "show program's version number and exit"⟩,
      ⟨["--log-level"], .setting ["DEBUG", "INFO", "WARNING", "ERROR"],
        "Set logging level (overrides the configuration file; default WARNING)"⟩,
      ⟨["--log-format"], .setting ["json", "text"],
        "Set log output format (overrides the configuration file; default text)"⟩,
      ⟨["--config"], .setting [], "Runtime configuration file (YAML, JSON or TOML)"⟩]
    commands := [initConfig, showContract, verify] }

/-- What the tool shows when it is run without a command, before its help. -/
def banner : String := "\n".intercalate [
  "",
  "  _____.__                _____.__",
  "_/ ____\\__|______   _____/ ____\\  | ___.__.",
  "\\   __\\|  \\_  __ \\_/ __ \\   __\\|  |<   |  |",
  " |  |  |  ||  | \\/\\  ___/|  |  |  |_\\___  |",
  " |__|  |__||__|    \\___  >__|  |____/ ____|",
  "                       \\/           \\/",
  ":: fireflyffi ::",
  "",
  "Foreign-function runtime for Firefly native bindings",
  "",
  "Copyright © 2025 Firefly Software Solutions Inc",
  "Licensed under Apache License 2.0",
  "    "]

end ForeignBridge.Cli
