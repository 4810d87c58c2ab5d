namespace WatchfaceCheck.Bridge

def scriptName : String := ".rocky-lint-bridge.js"

def scriptLines : List String :=
  ["// Runs the TypeScript compiler over a staged rocky-lint workspace.",
   "//",
   "// stdin:  \x7b \"typescript\": <module path>, \"rootNames\": [...], \"options\": \x7b...\x7d \x7d",
   "// stdout: \x7b \"options\": [...], \"global\": [...], \"syntactic\": [...],",
   "//           \"semantic\": [...], \"sources\": \x7b <file>: <text> \x7d \x7d",
   "'use strict';",
   "",
   "const fs = require('fs');",
   "const path = require('path');",
   "",
   "const MAX_CHAIN_NODES = 64;",
   "",
   "const request = JSON.parse(fs.readFileSync(0, 'utf8'));",
   "const ts = require(request.typescript || 'typescript');",
   "",
   "const converted = ts.convertCompilerOptionsFromJson(request.options, process.cwd());",
   "const program = ts.createProgram(request.rootNames, converted.options);",
   "const sources = \x7b\x7d;",
   "",
   "function displayName(fileName) \x7b",
   "  const relative = path.relative(process.cwd(), fileName);",
   "  return relative.startsWith('..') || path.isAbsolute(relative) ? fileName : relative;",
   "\x7d",
   "",
   "// Older compilers link chains through a single \x60next\x60, newer ones through an array.",
   "function flatten(messageText, code, category) \x7b",
   "  if (typeof messageText === 'string') \x7b",
   "    return [\x7b code, text: messageText, category, depth: 0 \x7d];",
   "  \x7d",
   "",
   "  const chain = [];",
   "  const pending = [[messageText, 0]];",
   "  while (pending.length > 0 && chain.length < MAX_CHAIN_NODES) \x7b",
   "    const [node, depth] = pending.pop();",
   "    chain.push(\x7b code: node.code, text: node.messageText, category: node.category, depth \x7d);",
   "    const next = node.next === undefined ? [] : [].concat(node.next);",
   "    for (let i = next.length - 1; i >= 0; i--) \x7b",
   "      pending.push([next[i], depth + 1]);",
   "    \x7d",
   "  \x7d",
   "  return chain;",
   "\x7d",
   "",
   "function convert(diagnostic) \x7b",
   "  let file = null;",
   "  if (diagnostic.file) \x7b",
   "    file = displayName(diagnostic.file.fileName);",
   "    if (!(file in sources)) \x7b",
   "      sources[file] = diagnostic.file.text;",
   "    \x7d",
   "  \x7d",
   "",
   "  return \x7b",
   "    file,",
   "    start: diagnostic.start || 0,",
   "    length: diagnostic.length || 0,",
   "    category: diagnostic.category,",
   "    code: diagnostic.code,",
   "    chain: flatten(diagnostic.messageText, diagnostic.code, diagnostic.category),",
   "  \x7d;",
   "\x7d",
   "",
   "const result = \x7b",
   "  options: converted.errors.concat(program.getOptionsDiagnostics()).map(convert),",
   "  global: program.getGlobalDiagnostics().map(convert),",
   "  syntactic: program.getSyntacticDiagnostics().map(convert),",
   "  semantic: program.getSemanticDiagnostics().map(convert),",
   "  sources,",
   "\x7d;",
   "",
   "process.stdout.write(JSON.stringify(result));",
   ""]

def script : String := "\n".intercalate scriptLines

end WatchfaceCheck.Bridge
