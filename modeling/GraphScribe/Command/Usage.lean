import GraphScribe.Text.Basic

/-!
# Usage

What the command says about itself.
-/

namespace GraphScribe.Command

def programName : String := "flowgraph-compile"

def usageLines : List String := [
  "usage: flowgraph-compile [-h] [--target \x7bcompiler,llm\x7d] [--out DIR] [--print]",
  "                         [--canonical] [--strict]",
  "                         graph.json"]

/-- The lines of the help after the usage. -/
def helpLines : List String := [
  "",
  "Compile a flowgraph JSON graph to LangGraph Python.",
  "",
  "positional arguments:",
  "  graph.json            Path to the graph JSON file to compile.",
  "",
  "options:",
  "  -h, --help            show this help message and exit",
  "  --target \x7bcompiler,llm\x7d",
  "                        Code generator. compiler (default) is deterministic;",
  "                        llm calls OpenAI.",
  "  --out DIR             Output directory for the compiled .py file (default:",
  "                        compiled/).",
  "  --print               Print generated source to stdout instead of writing a",
  "                        file.",
  "  --canonical           Print the sanitized graph JSON instead of compiling",
  "                        it.",
  "  --strict              Treat edges to non-NODE nodes as errors rather than",
  "                        warnings.",
  "",
  "compile_from_json.py — CLI for the flowgraph compiler",
  "=====================================================",
  "Compiles an editor graph JSON file into a LangGraph Python script.",
  "",
  "Usage",
  "-----",
  "    flowgraph-compile <graph.json> [options]",
  "    python -m flowgraph.compile_from_json <graph.json> [options]",
  "",
  "Options",
  "-------",
  "    --target  \x7bcompiler,llm\x7d  Code generator (default: compiler)",
  "                                compiler — deterministic local compiler",
  "                                llm      — OpenAI model (needs OPENAI_API_KEY)",
  "    --out     <dir>           Output directory (default: compiled/)",
  "    --print                   Print the generated source to stdout instead of writing a file",
  "    --canonical               Print the sanitized graph JSON and exit",
  "    --strict                  Reject edges that touch non-NODE nodes (default: warn)",
  "",
  "The input may be a bare graph (\x7b\"nodes\": [...], \"edges\": [...]\x7d) or the",
  "request body the editor posts (\x7b\"graphJSON\": \x7b...\x7d\x7d).",
  "",
  "Examples",
  "--------",
  "    flowgraph-compile graphs/chatbot.json",
  "    flowgraph-compile graphs/chatbot.json --print",
  "    flowgraph-compile graphs/chatbot.json --target llm --out build/"]

/-- Lines as a text, each with its line feed. -/
def linesText (lines : List String) : Text := lines.flatMap fun line => line.toList ++ ['\n']

def usage : Text := linesText usageLines

def help : Text := usage ++ linesText helpLines

end GraphScribe.Command
