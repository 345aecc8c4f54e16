import SqlReplay.Cli.Run
import SqlReplay.Proofs.Config.Variables

/-! What options ask for: a configuration keeps what no option names, and a text is the one that is
given, else that of the source that is named, else the remembered one. -/

namespace SqlReplay

section

variable (given : Option Text) (source : Option TextSource)

end

section

variable {given : Option Text} {source : Option TextSource} {input left : Text}
  {fault : Utf8.Fault} {o : GenerateOptions}

end

end SqlReplay
