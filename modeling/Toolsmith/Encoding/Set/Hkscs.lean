/-
The supplementary characters for Hong Kong, under the two octets that they
have beside Big5.
-/
import Toolsmith.Text.CodeTable

namespace Toolsmith.CodeTable

/-- The supplement of 2004. -/
def hkscs : CodeTable :=
  ⟨[
    (0x8740, "䏰䰲䘃䖦䕸𧉧䵷䖳𧲱䳢𧳅㮕䜶䝄䱇䱀𤊿𣘗𧍒𦺋𧃒䱗𪍑䝏䗚䲅𧱬䴇䪤䚡𦬣爥"),
    (0x8760, "𥩔𡩣𣸆𣽡晍囻\ufffd綕夝𨮹㷴霴𧯯寛𡵞媤㘥𩺰嫑宷峼杮薓𩥅瑡璝"),
    (0x8840, "㇀㇁㇂㇃㇄𠄌㇅𠃑𠃍㇆㇇𠃋𡿨㇈𠃊㇉㇊㇋㇌𠄎㇍㇎ĀÁǍÀĒÉĚÈŌÓ"),
    (0x8860, "ǑÒÊẾÊỀÊāáǎàɑēéěèīíǐìōóǒòūúǔùǖǘǚ"),
    (0x88a1, "ǜüêếêềêɡ⏚⏛"),
    (0x8940, "𪎩𡅅\ufffd攊\ufffd\ufffd丽滝鵎釟\ufffd\ufffd𧜵撑会伨侨兖兴农凤务动医华发变团声处备夲"),
    (0x8960, "头学实実岚庆总斉柾栄桥济炼电纤纬纺织经统缆缷艺苏药视设询车轧轮"),
    (0x89a1, "琑糼緍楆竉刧"),
    (0x89ab, "醌碸酞肼\ufffd贋胶𠧧\ufffd\ufffd肟黇䳍鷉鸌䰾𩷶𧀎鸊𪄳㗁\ufffd溚舾甙\ufffd䤑马骏龙禇𨑬"),
    (0x89cb, "𡷊𠗐𢫦两亁亀亇亿仫伷㑌侽㹈倃傈㑽㒓㒥円夅凛凼刅争剹劐匧㗇厩㕑厰㕓"),
    (0x89eb, "参吣㕭㕲㚁咓咣咴咹哐哯唘唣唨㖘唿㖥㖿嗗㗅"),
    (0x8a40, "𧶄唥\ufffd𠱂𠴕𥄫喐𢳆㧬𠍁蹆𤶸𩓥䁓𨂾睺𢰸㨴䟕𨅝𦧲𤷪擝𠵼𠾴𠳕𡃴撍蹾𠺖𠰋𠽤"),
    (0x8a60, "𢲩𨉖𤓓\ufffd𠵆𩩍𨃩䟴𤺧𢳂骲㩧𩗴㿭㔆𥋇𩟔𧣈𢵄鵮頕\ufffd䏙𦂥撴哣𢵌𢯊𡁷㧻𡁯"),
    (0x8aa1, "𦛚𦜖𧦠擪𥁒𠱃蹨𢆡𨭌𠜱\ufffd䠋𠆩㿺塳𢶍\ufffd𤗈𠓼𦂗𠽌𠶖啹䂻䎺\ufffd䪴𢩦𡂝膪飵𠶜"),
    (0x8ac1, "捹㧾𢝵跀嚡摼㹃\ufffd𪘁𠸉𢫏𢳉\ufffd𡃈𣧂㦒㨆𨊛㕸𥹉𢃇噒𠼱𢲲𩜠㒼氽𤸻\ufffd\ufffd𧕴𢺋"),
    (0x8ae1, "𢈈𪙛𨳍𠹺𠰴𦠜羓𡃏𢠃𢤹㗻𥇣𠺌𠾍𠺪㾓𠼰𠵇𡅏𠹌\ufffd𠺫𠮩𠵈𡃀𡄽㿹𢚖搲𠾭"),
    (0x8b40, "𣏴𧘹𢯎𠵾𠵿𢱑𢱕㨘𠺘𡃇𠼮𪘲𦭐𨳒𨶙𨳊閪哌苄喹\ufffd𩻃鰦骶𧝞𢷮煀腭胬尜𦕲脴"),
    (0x8b60, "㞗卟𨂽醶𠻺𠸏𠹷𠻻㗝𤷫㘉𠳖嚯𢞵𡃉𠸐𠹸𡁸𡅈𨈇𡑕𠹹𤹐𢶤婔𡀝𡀞𡃵𡃶垜𠸑"),
    (0x8ba1, "𧚔𨋍𠾵𠹻𥅾㜃𠾶𡆀𥋘𪊽𤧚𡠺𤅷𨉼墙剨㘚𥜽箲孨䠀䬬鼧䧧鰟鮍𥭴𣄽嗻㗲嚉丨"),
    (0x8bc1, "夂𡯁屮靑𠂆乛亻㔾尣彑忄㣺扌攵歺氵氺灬爫丬犭𤣩罒礻糹罓𦉪㓁\ufffd𦍋耂肀"),
    (0x8be1, "𦘒𦥑卝衤见𧢲讠贝钅镸长门𨸏韦页风飞饣𩠐鱼鸟黄歯\uf907丷𠂇阝户钢"),
    (0x8c40, "倻淾𩱳龦㷉袏𤅎灷峵䬠𥇍㕙𥴰愢𨨲辧釶熑朙玺𣊁𪄇㲋𡦀䬐磤琂冮𨜏䀉橣𪊺"),
    (0x8c60, "䈣蘏𠩯稪𩥇𨫪靕灍匤𢁾鏴盙𨧣龧矝亣俰傼丯众龨吴綋墒壐𡶶庒庙忂𢜒斋"),
    (0x8ca1, "𣏹椙橃𣱣泿\ufffd爀𤔅玌㻛𤨓嬕璹讃𥲤𥚕窓篬糃繬苸薗龩袐龪躹龫迏蕟駠鈡龬"),
    (0x8cc1, "𨶹𡐿䁱䊢娚"),
    (0x8cc9, "顨杫䉶圽\ufffd藖𤥻芿𧄍䲁𦵴嵻𦬕𦾾龭龮宖龯曧繛湗秊㶈䓃𣉖𢞖䎚䔶\ufffd峕𣬚諹"),
    (0x8ce9, "屸㴒𣕑嵸龲煗䕘𤃬𡸣䱷㥸㑊𠆤𦱁諌侴𠈹妿腬顖𩣺弻"),
    (0x8d40, "𠮟\ufffd𢇁𨥭䄂䚻𩁹㼇龳𪆵䃸㟖䛷𦱆䅼𨚲𧏿䕭㣔𥒚䕡䔛䶉䱻䵶䗪㿈𤬏㙡䓞䒽䇭"),
    (0x8d60, "崾嵈嵖㷼㠏嶤嶹㠠㠸幂庽弥徃㤈㤔㤿㥍惗愽峥㦉憷憹懏㦸戬抐拥挘㧸嚱"),
    (0x8da1, "㨃揢揻搇摚㩋擀崕嘡龟㪗斆㪽旿晓㫲暒㬢朖㭂枤栀㭘桊梄㭲㭱㭻椉楃牜楤"),
    (0x8dc1, "榟榅㮼槖㯝橥橴橱檂㯬檙㯲檫檵櫔櫶殁毁毪汵沪㳋洂洆洦涁㳯涤涱渕渘温"),
    (0x8de1, "溆𨧀溻滢滚齿滨滩漤漴㵆𣽁澁澾㵪㵵熷岙㶊瀬㶑灐灔灯灿炉𠌥䏁㗱𠻘"),
    (0x8e40, "𣻗垾𦻓焾𥟠㙎榢𨯩孴穉𥣡𩓙穥穽𥦬窻窰竂竃燑𦒍䇊竚竝竪䇯咲𥰁笋筕笩𥌎"),
    (0x8e60, "𥳾箢筯莜𥮴𦱿篐萡箒\ufffd𥴠㶭𥱥蒒篺\ufffd簵𥳁籄粃𤢂粦晽𤕸糉糇糦籴糳糵"),
    (0x8ea1, "繧䔝𦹄絝𦻖璍綉綫焵綳\ufffd𤁗𦀩緤㴓緵𡟹緥𨍭\ufffd𦄡𦅚繮纒䌫鑬縧罀罁罇礶𦋐"),
    (0x8ec1, "駡羗𦍑羣𡙡𠁨䕜𣝦䔃𨌺翺𦒉\ufffd耈耝\ufffd耯𪂇𦳃耻耼聡𢜔䦉𦘦𣷣𦛨朥肧𨩈脇脚"),
    (0x8ee1, "墰𢛶汿𦒘𤾸擧𡒊舘𡡞橓𤩥𤪕䑺舩𠬍𦩒𣵾俹𡓽蓢荢𦬊𤦧𣔰𡝳𣷸芪椛芳䇛"),
    (0x8f40, "蕋苐茚𠸖𡞴㛁𣅽𣕚艻苢茘𣺋𦶣𦬅𦮗𣗎㶿茝嗬莅䔋𦶥莬\ufffd菓㑾𦻔橗蕚㒖𦹂𢻯"),
    (0x8f60, "葘𥯤葱㷓䓤檧葊𣲵祘\ufffd𦮖𦹷𦹃蓞\ufffd莑䒠蒓蓤𥲑䉀𥳀䕃蔴嫲𦺙䔧蕳䔖枿蘖"),
    (0x8fa1, "𨘥𨘻藁𧂈蘂𡖂𧃍䕫䕪蘨㙈𡢢号𧎚虾蝱𪃸蟮𢰧螱蟚蠏噡虬桖䘏衅衆𧗠𣶹𧗤衞"),
    (0x8fc1, "袜䙛袴袵揁装睷𧜏覇覊\ufffd\ufffd覧覼𨨥觧𧤤𧪽誜瞓釾誐𧩙竩𧬺𣾏䜓𧬸煼謌謟𥐰"),
    (0x8fe1, "𥕥謿譌譍誩𤩺讐讛誯𡛟䘕衏貛𧵔𧶏貫㜥𧵓賖𧶘𧶽贒贃𡤐賛灜贑𤳉㻐"),
    (0x9040, "趩𨀂𡀔𤦊㭼𨆼𧄌竧躭躶軃鋔輙輭𨍥𨐒辥錃𪊟𠩐辳䤪𨧞𨔽𣶻廸𣉢迹𪀔𨚼𨔁𢌥"),
    (0x9060, "㦀𦻗逷𨔼𧪾遡𨕬𨘋邨𨜓郄𨛦邮\ufffd酧㫰醩釄粬𨤳𡺉鈎沟鉁鉢𥖹\ufffd𨫆𣲛𨬌𥗛"),
    (0x90a1, "𠴱錬鍫𨫡𨯫炏嫃𨫢𨫥䥥鉄𨯬𨰹𨯿鍳鑛躼閅閦鐦閠濶䊹𢙺𨛘𡉼𣸮䧟氜陻隖䅬"),
    (0x90c1, "隣𦻕懚隶磵𨫠隽双䦡𦲸𠉴𦐐𩂯𩃥𤫑𡤕𣌊霱虂霶䨏䔽䖅𤫩灵孁霛\ufffd𩇕靗孊𩇫"),
    (0x90e1, "靟鐥僐𣂷𣂼鞉鞟鞱鞾韀韒韠𥑬韮琜𩐳\ufffd韵𩐝𧥺䫑頴頳顋顦㬎𧅵㵑𠘰𤅜"),
    (0x9140, "𥜆飊颷飈飇䫿𦴧𡛓喰飡飦飬鍸餹𤨩䭲𩡗𩤅駵騌騻騐驘𥜥㛄𩂱𩯕髠髢𩬅髴䰎"),
    (0x9160, "鬔鬭𨘀倴鬴𦦨㣃𣁽魐魀𩴾婅𡡣鮎𤉋鰂鯿鰌𩹨鷔𩾷𪆒𪆫𪃡𪄣𪇟鵾鶃𪄴鸎梈"),
    (0x91a1, "鷄𢅛𪆓𪈠𡤻𪈳鴹𪂹𪊴麐麕麞麢䴴麪麯𤍤黁㭠㧥㴝伲㞾𨰫鼂鼈䮖鐤𦶢鼗\ufffd鼹"),
    (0x91c1, "嚟嚊齅馸𩂋韲葿齢齩竜龎爖䮾𤥵𤦻煷𤧸𤍈𤩑玞𨯚𡣺禟𨥾𨸶鍩鏳𨩄鋬鎁鏋𨥬"),
    (0x91e1, "𤒹爗㻫睲穃烐𤑳𤏸煾𡟯炣𡢾𣖙㻇𡢅𥐯𡟸㜢𡛻𡠹㛡𡝴𡣑𥽋㜣𡛀坛𤨥𡏾𡊨"),
    (0x9240, "𡏆𡒶蔃𣚦\ufffd葕𤦔𧅥𣸱𥕜𣻻𧁒䓴𣛮𩦝𦼦柹㜳㰕㷧塬𡤢栐䁗𣜿𤃡𤂋𤄏𦰡哋嚞𦚱"),
    (0x9260, "嚒𠿟𠮨𠸍鏆𨬓鎜仸儫㠙𤐶亼𠑥𠍿佋侊𥙑婨𠆫𠏋㦙𠌊𠐔㐵伩𠋀𨺳𠉵諚𠈌亘"),
    (0x92a1, "働儍侢伃𤨎𣺊佂倮偬傁俌俥偘僼"),
    (0x92b3, "湶𣖕𣸹𣺿浲𡢄𣺉冨凃𠗠䓝𠒣𠒒𠒑赺𨪜𠜎剙劤𠡳勡\ufffd䙺熌𤎌𠰠𤦬𡃤槑𠸝\ufffd㻞"),
    (0x92d3, "璙琔瑖玘䮎𤪼𤂍叐㖄爏𤃉喴𠍅响𠯆圝鉝雴鍦埝垍坿㘾壋媙𨩆𡛺𡝯𡜐娬妸銏"),
    (0x92f3, "婾嫏娒𥥆𡧳𡡡𤊕㛵洅瑃娡𥺃"),
    (0x9340, "媁𨯗𠐓鏠璌𡌃焅䥲鐈𨧻鎽㞠尞岞幞幈𡦖𡥼𣫮廍孏𡤃𡤄㜁𡢠㛝𡛾㛓脪𨩇𡶺𣑲"),
    (0x9360, "𨦨弌弎𡤧𡞫婫𡜻孄蘔𧗽衠恾𢡠𢘫忛㺸𢖯𢖾𩂈𦽳懀𠀾𠁆𢘛憙憘恵𢲛𢴇𤛔𩅍"),
    (0x93a1, "摱𤙥𢭪㨩𢬢𣑐𩣪𢹸挷𪑛撶挱揑𤧣𢵧护𢲡搻敫楲㯴𣂎𣊭𤦉𣊫唍𣋠𡣙𩐿曎𣊉𣆳"),
    (0x93c1, "㫠䆐𥖄𨬢𥖏𡛼𥕛𥐥磮𣄃𡠪𣈴㑤𣈏𣆂𤋉暎𦴤晫䮓昰𧡰𡷫晣𣋒𣋡昞𥡲㣑𣠺𣞼㮙"),
    (0x93e1, "𣞢𣏾瓐㮖枏𤘪梶栞㯄檾㡣𣟕𤒇樳橒櫉欅𡤒攑梘橌㯗橺歗𣿀𣲚鎠鋲𨯪𨫋"),
    (0x9440, "銉𨀞𨧜鑧涥漋𤧬\ufffd𣽿㶏渄𤀼娽渊塇洤硂焻𤌚𤉶烱牐犇犔𤞏𤜥兹𤪤𠗫瑺𣻸𣙟"),
    (0x9460, "𤩊𤤗𥿡㼆㺱𤫟𨰣𣼵悧㻳瓌琼鎇琷䒟𦷪䕑疃㽣𤳙𤴆㽘畕癳𪗆㬙瑨𨫌𤦫𤦎㫻"),
    (0x94a1, "㷍𤩎㻿𤧅𤣳釺圲鍂𨫣𡡤僟𥈡𥇧睸𣈲眎眏睻𤚗𣞁㩞𤣰琸璛㺿𤪺𤫇䃈𤪖𦆮錇𥖁"),
    (0x94c1, "砞碍碈磒珐祙𧝁𥛣䄎\ufffd蒖禥樭𣻺稺秴䅮𡛦䄲鈵秱𠵌𤦌𠊙𣶺𡝮㖗啫㕰㚪𠇔𠰍"),
    (0x94e1, "竢婙𢛵𥪯𥪜娍𠉛磰娪𥯆竾䇹籝籭䈑𥮳𥺼𥺦糍𤧹𡞰粎籼粮檲緜縇緓罎𦉡"),
    (0x9540, "𦅜𧭈綗𥺂䉪𦭵𠤖柖𠁎𣗏埄𦐒𦏸𤥢翝笧𠠬𥫩𥵃笌𥸎駦虅驣樜𣐿㧢𤧷𦖭騟𦖠蒀"),
    (0x9560, "𧄧𦳑䓪脷䐂胆脉腂𦞴飃𦩂艢艥𦩑葓𦶧蘐𧈛媆䅿𡡀嬫𡢡嫤𡣘蚠蜨𣶏蠭𧐢娂"),
    (0x95a1, "衮佅袇袿裦襥襍𥚃襔𧞅𧞄𨯵𨯙𨮜𨧹㺭蒣䛵䛏㟲訽訜𩑈彍鈫𤊄旔焩烄𡡅鵭貟"),
    (0x95c1, "賩𧷜妚矃姰䍮㛔踪躧𤰉輰轊䋴汘澻𢌡䢛潹溋𡟚鯩㚵𤤯邻\ufffd啱䤆醻鐄𨩋䁢𨫼"),
    (0x95e1, "鐧𨰝𨰻蓥訫閙閧閗閖𨴴瑅㻂𤣿𤩂𤏪㻧𣈥随𨻧𨹦𨹥㻌𤧭𤩸𣿮琒瑫㻼靁𩂰"),
    (0x9640, "桇䨝𩂓𥟟\ufffd鍨𨦉𨰦𨬯𦎾銺嬑譩䤼珹𤈛鞛靱餸𠼦巁𨯅𤪲頟𩓚鋶𩗗釥䓀𨭐𤩧𨭤"),
    (0x9660, "飜𨩅㼀鈪䤥萔餻饍𧬆㷽馛䭯馪驜𨭥𥣈檏騡嫾騯𩣱䮐𩥈馼䮽䮗鍽塲𡌂堢𤦸"),
    (0x96a1, "𡓨硄𢜟𣶸棅㵽鑘㤧慐𢞁𢥫愇鱏鱓鱻鰵鰐魿鯏𩸭鮟𪇵𪃾鴡䲮𤄄鸘䲰鴌𪆴𪃭𪃳"),
    (0x96c1, "𩤯鶥蒽𦸒𦿟𦮂藼䔳𦶤𦺄𦷰萠藮𦸀𣟗𦁤秢𣖜𣙀䤭𤧞㵢鏛銾鍈𠊿碹鉷鑍俤㑀遤"),
    (0x96e1, "𥕝砽硔碶硋𡝗𣇉𤥁㚚佲濚濙\ufffd瀞吔𤆵垻壳垊鴖埗焴㒯𤆬燫𦱀𤾗\ufffd𡞵𨩉"),
    (0x9740, "愌嫎娋䊼𤒈㜬䭻𨧼鎻鎸𡣖𠼝葲𦳀𡐓𤋺𢰦𤏁妔𣶷𦝁綨𦅛𦂤𤦹𤦋𨧺鋥珢㻩璴𨭣"),
    (0x9760, "𡢟㻡𤪳櫘珳珻㻖𤨾𤪔𡟙𤩦𠎧𡐤𤧥瑈𤤖炥𤥶銄珦鍟𠓾錱𨫎𨨖鎆𨯧𥗕䤵𨪂煫"),
    (0x97a1, "𤥃𠳿嚤𠘚𠯫𠲸唂秄𡟺緾𡛂𤩐𡡒䔮鐁㜊𨫀𤦭妰𡢿𡢃𧒄媡㛢𣵛㚰鉟婹𨪁𡡢鍴㳍"),
    (0x97c1, "𠪴䪖㦊僴㵩㵌𡎜煵䋻𨈘渏𩃤䓫浗𧹏灧沯㳖𣿭𣸭渂漌㵯𠏵畑㚼㓈䚀㻚䡱姄鉮"),
    (0x97e1, "䤾轁𨰜𦯀堒埈㛖𡑒烾𤍢𤩱𢿣𡊰𢎽梹楧𡎘𣓥𧯴𣛟𨪃𣟖𣏺𤲟樚𣚭𦲷萾䓟䓎"),
    (0x9840, "𦴦𦵑𦲂𦿞漗𧄉茽𡜺菭𦲀𧁓𡟛妉媂𡞳婡婱𡤅𤇼㜭姯𡜼㛇熎鎐暚𤊥婮娫𤊓樫𣻹"),
    (0x9860, "𧜶𤑛𤋊焝𤉙𨧡侰𦴨峂𤓎𧹍𤎽樌𤉖𡌄炦焳𤏩㶥泟勇𤩏繥姫崯㷳彜𤩝𡟟綤萦"),
    (0x98a1, "咅𣫺𣌀𠈔坾𠣕𠘙㿥𡾞𪊶瀃𩅛嵰玏糓𨩙𩐠俈翧狍猐𧫴猸猹𥛶獁獈㺩𧬘遬燵𤣲"),
    (0x98c1, "珡臶㻊県㻑沢国琙琞琟㻢㻰㻴㻺瓓㼎㽓畂畭畲疍㽼痈痜㿀癍㿗癴㿜発𤽜熈"),
    (0x98e1, "嘣覀塩䀝睃䀹条䁅㗛瞘䁪䁯属瞾矋売砘点砜䂨砹硇硑硦葈𥔵礳栃礲䄃"),
    (0x9940, "䄉禑禙辻稆込䅧窑䆲窼艹䇄竏竛䇏両筢筬筻簒簛䉠䉺类粜䊌粸䊔糭输烀𠳏"),
    (0x9960, "総緔緐緽羮羴犟䎗耠耥笹耮耱联㷌垴炠肷胩䏭脌猪脎脒畠脔䐁㬹腖腙腚"),
    (0x99a1, "䐓堺腼膄䐥膓䐭膥埯臁臤艔䒏芦艶苊苘苿䒰荗险榊萅烵葤惣蒈䔄蒾蓡蓸蔐"),
    (0x99c1, "蔸蕒䔻蕯蕰藠䕷虲蚒蚲蛯际螋䘆䘗袮裿褤襇覑𧥧訩訸誔誴豑賔賲贜䞘塟跃"),
    (0x99e1, "䟭仮踺嗘坔蹱嗵躰䠷軎転軤軭軲辷迁迊迌逳駄䢭飠鈓䤞鈨鉘鉫銱銮銿"),
    (0x9a40, "鋣鋫鋳鋴鋽鍃鎄鎭䥅䥑麿鐗匁鐝鐭鐾䥪鑔鑹锭関䦧间阳䧥枠䨤靀䨵鞲韂噔"),
    (0x9a60, "䫤惨颹䬙飱塄餎餙冴餜餷饂饝饢䭰駅䮝騼鬏窃魩鮁鯝鯱鯴䱭鰠㝯𡯂鵉鰺"),
    (0x9aa1, "黾噐鶓鶽鷀鷼银辶鹻麬麱麽黆铜黢黱黸竈齄𠂔𠊷𠎠椚铃妬𠓗塀铁㞹𠗕𠘕𠙶"),
    (0x9ac1, "𡚺块煳𠫂𠫍𠮿呪吆𠯋咞𠯻𠰻𠱓𠱥𠱼惧𠲍噺𠲵𠳝𠳭𠵯𠶲𠷈楕鰯螥𠸄𠸎𠻗𠾐𠼭"),
    (0x9ae1, "𠹳尠𠾼帋𡁜𡁏𡁶朞𡁻𡂈𡂖㙇𡂿𡃓𡄯𡄻卤蒭𡋣𡍵𡌶讁𡕷𡘙𡟃𡟇乸炻𡠭𡥪"),
    (0x9b40, "𡨭𡩅𡰪𡱰𡲬𡻈拃𡻕𡼕熘桕𢁅槩㛈𢉼𢏗𢏺𢜪𢡱𢥏苽𢥧𢦓𢫕覥𢫨辠𢬎鞸𢬿顇骽"),
    (0x9b60, "𢱌\ufffd𢲈𢲷𥯨𢴈𢴒𢶷𢶕𢹂𢽴𢿌𣀳𣁦𣌟𣏞徱晈暿𧩹𣕧𣗳\ufffd𤦺\ufffd𣘚𣜖\ufffd𠍆墵朎"),
    (0x9ba1, "椘𣪧𧙗𥿢𣸑𣺹𧗾𢂚䣐䪸𤄙𨪚𤋮𤌍𤀻𤌴𤎖𤩅𠗊凒𠘑妟𡺨㮾𣳿𤐄𤓖垈𤙴㦛𤜯𨗨"),
    (0x9bc1, "𩧉㝢𢇃譞𨭎\ufffd𤠒𤣻𤨕爉𤫀𠱸奥𤺥𤾆𠝹軚𥀬劏圿煱𥊙𥐙𣽊𤪧喼𥑆𥑮𦭒\ufffd㑳𥔿"),
    (0x9be1, "𧘲𥕞䜘𥕢𥕦𥟇𤤿𥡝偦㓻𣏌\ufffd𥤃䝼𨥈𥪮𥮉𥰆𡶐垡煑\ufffd𦄂𧰒遖𦆲𤾚譢𦐂𦑊"),
    (0x9c40, "嵛𦯷\ufffd𦒄𡤜諪𤧶𦒈𣿯𦔒䯀𦖿𦚵𢜛鑥𥟡憕娧晉\ufffd嚹𤔡𦛼乪𤤴陖涏𦲽㘘襷𦞙𦡮"),
    (0x9c60, "𦐑𦡞\ufffd𦣇筂𩃀𠨑𦤦\ufffd𦤹穅\ufffd𦧺騦𦨭㙟𦑩𠀡禃𦨴𦭛崬𣔙\ufffd𦮝䛐𦲤画补𦶮墶"),
    (0x9ca1, "㜜𢖍𧁋𧇍㱔𧊀𧊅銁𢅺𧊋錰𧋦𤧐氹钟𧑐𠻸蠧裵𢤦𨑳𡞱溸𤨪𡠠㦤㚹\ufffd\ufffd䔿暶𩲭"),
    (0x9cc1, "𩢤襃𧟌𧡘囖䃟𡘊㦡𣜯𨃨𡏅熭荦𧧝𩆨\ufffd䲷𧂯𨦫𧧽𧨊𧬋𧵦𤅺筃祾𨀉澵𪋟樃𨌘厢"),
    (0x9ce1, "𦸇鎿栶靝𨅯𨀣𦦵𡏭𣈯𨁈嶅𨰰𨂃圕頣𨥉嶫𤦈斾槕叒𤪥𣾁㰑朶𨂐𨃴𨄮𡾡𨅏"),
    (0x9d40, "𨆉𨆯𨈚𨌆𨌯𨎊㗊𨑨𨚪䣺揦𨥖砈鉕𨦸䏲𨧧䏟𨧨𨭆𨯔姸𨰉\ufffd𨿅𩃬\ufffd𩄐𩄼㷷𩅞𤫊"),
    (0x9d60, "运犏嚋𩓧𩗩𩖰𩖸𩜲𩣑𩥉𩥪𩧃𩨨𩬎𩵚𩶛纟𩻸𩼣䲤镇𪊓熢𪋿䶑递𪗋䶜𠲜达嗁"),
    (0x9da1, "辺𢒰边𤪓䔉繿潖檱仪㓤𨬬𧢝㜺躀𡟵𨀤𨭬𨮙𧨾𦚯㷫𧙕𣲷𥘵𥥖亚𥺁𦉘嚿𠹭踎孭"),
    (0x9dc1, "𣺈𤲞揞\ufffd𡟶𡡻攰嘭𥱊吚𥌑㷆𩶘䱽嘢嘞罉𥻘奵𣵀蝰东𠿪𠵉𣚺脗鵞贘瘻鱅癎瞹"),
    (0x9de1, "鍅吲腈苷嘥脲萘肽嗪祢噃吖𠺝㗎嘅嗱曱𨋢㘭甴嗰喺咗啲𠱁𠲖廐𥅈𠹶𢱢"),
    (0x9e40, "𠺢麫絚嗞𡁵抝靭咔賍燶酶揼掹揾啩𢭃鱲𢺳冚㓟𠶧冧呍唞唓癦踭𦢊疱肶蠄螆"),
    (0x9e60, "裇膶萜𡃁䓬猄𤜆宐茋𦢓噻𢛴𧴯𤆣𧵳𦻐𧊶酰𡇙鈈𣳼𪚩𠺬𠻹牦𡲢䝎𤿂𧿹𠿫䃺"),
    (0x9ea1, "鱝攟𢶠䣳𤟠𩵼𠿬𠸊\ufffd𧖣𠿭\ufffd𦁈𡆇熣纎鵐业丄㕷嬍沲卧㚬㧜卽㚥𤘘墚𤭮舭呋"),
    (0x9ec1, "垪𥪕𠥹\ufffd㩒𢑥獴𩺬䴉鯭𣳾𩼰䱛𤾩𩖞𩿞葜𣶶𧊲𦞳𣜠挮紥𣻷𣸬㨪逈勌㹴㙺䗩𠒎"),
    (0x9ee1, "癀嫰𠺶硺𧼮墧䂿噼鮋嵴癔𪐴麅䳡\ufffd㟻愙𣃚𤏲\ufffd噝𡊩垧𤥣𩸆刴𧂮㖭\ufffd鵼"),
    (0x9f40, "籖鬹埞𡝬屓擓𩓐𦌵𧅤蚭𠴨𦴢𤫢𠵱\ufffd凾𡼏嶎霃𡷑麁遌笟鬂峑箣扨挵髿篏鬪籾"),
    (0x9f61, "籂粆鰕篼鬉\ufffd鰛𤤾齚啳寃俽麘俲剠㸆勑坧偖妷帒韈鶫轜呩鞴饀鞺匬愰"),
    (0x9fa1, "椬叚鰊鴂䰻陁榀傦畆𡝭駚剳\ufffd酙隁酜\ufffd酑𨺗捿𦴣櫊嘑醎畺抅𠏼獏籰𥰡𣳽"),
    (0x9fc1, "𤤙盖鮝个𠳔莾衂\ufffd届槀\ufffd坺刟巵从氱𠇲伹咜哚劚趂㗾\ufffd㗳\ufffd歒酼龥鮗頮颴"),
    (0x9fe1, "骺麨麄煺笔\ufffd毺蠘罸\ufffd嘠𪙊蹷齓\ufffd跔蹏鸜踁抂𨍽踨蹵竓𤩷稾磘泪詧瘇"),
    (0xa040, "𨩚鼦泎蟖痃𪊲硓咢贌狢獱謭猂瓱賫𤪻蘯徺袠䒷\ufffd𡠻𦸅\ufffd詾𢔛\ufffd惽癧髗鵄鍮"),
    (0xa060, "鮏蟵\ufffd\ufffd賷猬霡鮰㗖犲䰇籑饊𦅙慙䰄麖慽\ufffd坟慯抦戹\ufffd㩜懢厪𣏵捤栂㗒"),
    (0xa0a1, "嵗𨯂迚𨸹\ufffd僙𡵆礆匲阸𠼻䁥\ufffd矾\ufffd糂𥼚糚稭聦聣絍甅瓲覔舚朌聢𧒆聛瓰脃"),
    (0xa0c1, "眤覉𦟌畓𦻑螩蟎臈螌詉貭譃眫瓸蓚㘵榲趦\ufffd覩\ufffd涹蟁𤀑瓧㷛煶悤憜㳑\ufffd恷"),
    (0xa0e2, "罱𨬭\ufffd惩䭾删㰘𣳇𥻗𧙖𥔱𡥄𡋾𩤃𦷜𧂭峁𦆭𨨏𣙷𠃮𦡆𤼎䕢嬟𦍌齐麦𦉫"),
    (0xc6a1, "①②③④⑤⑥⑦⑧⑨⑩⑴⑵⑶⑷⑸⑹⑺⑻⑼⑽ⅰⅱⅲⅳⅴⅵⅶⅷⅸⅹ丶丿"),
    (0xc6c1, "亅亠冂冖冫勹匸卩厶夊宀巛⼳广\ufffd彐彡攴\ufffd疒\ufffd辵\ufffd¨ˆヽヾゝゞ\ufffd\ufffd々"),
    (0xc6e1, "〆〇ー［］✽ぁあぃいぅうぇえぉおかがきぎくぐけげこごさざしじ"),
    (0xc740, "すずせぜそぞただちぢっつづてでとどなにぬねのはばぱひびぴふぶぷへ"),
    (0xc760, "べぺほぼぽまみむめもゃやゅゆょよらりるれろゎわゐゑをんァアィイ"),
    (0xc7a1, "ゥウェエォオカガキギクグケゲコゴサザシジスズセゼソゾタダチヂッツ"),
    (0xc7c1, "ヅテデトドナニヌネノハバパヒビピフブプヘベペホボポマミムメモャヤ"),
    (0xc7e1, "ュユョヨラリルレロヮワヰヱヲンヴヵヶАБВГДЕЁЖЗИЙК"),
    (0xc840, "ЛМНОПРСТУФХЦЧШЩЪЫЬЭЮЯабвгдеёжзий"),
    (0xc860, "клмнопрстуфхцчшщъыьэюя⇧↸↹㇏𠃌乚𠂊刂䒑"),
    (0xc8a1, "龰冈龱𧘇"),
    (0xc8cd, "￢￤＇＂㈱№℡゛゜⺀⺄⺆⺇⺈⺊⺌⺍⺕⺜⺝⺥⺧⺪⺬⺮⺶⺼⺾⻆⻊⻌⻍"),
    (0xc8ed, "⻏⻖⻗⻞⻣"),
    (0xc8f5, "ʃɐɛɔɵœøŋʊɪ"),
    (0xf9d6, "碁銹裏墻恒粧嫺╔╦╗╠╬╣╚╩╝╒╤╕╞╪╡╘╧╛╓╥╖╟╫╢╙"),
    (0xf9f6, "╨╜║═╭╮╰╯￭"),
    (0xfa40, "𠕇鋛𠗟𣿅蕌䊵珯况㙉𤥂𨧤鍄𡧛苮𣳈砼杄拟𤤳𨦪𠊠𦮳𡌅侫𢓭倈𦴩𧪄𣘀𤪱𢔓"),
    (0xfa60, "𠍾徤𠎀𠍇滛𠐟\ufffd儁㑺儎顬㝃萖𤦤𠒇兠𣎴兪𠯿𢃼𠋥𢔰𠖎𣈳𡦃宂蝽𠖳𣲙冲冸"),
    (0xfaa1, "鴴凉减凑㳜凓𤪦决凢卂凭菍椾𣜭彻刋刦刼劵剗劔効勅簕蕂勠蘍𦬓\ufffd𨫞啉滙"),
    (0xfac1, "𣾀𠥔𣿬匳\ufffd𠯢泋𡜦栛珕恊㺪㣌𡛨燝䒢卭却𨚫卾\ufffd𡖖𡘓矦厓𨪛厠厫厮玧𥝲㽙"),
    (0xfae1, "玜叁叅汉义埾叙㪫𠮏叠𣿫𢶣叶𠱷吓灹唫晗浛呭𦭓𠵴啝咏咤䞦𡜍𠻝㶴𠵍"),
    (0xfb40, "𨦼𢚘啇䳭启琗喆喩\ufffd𡣗𤀺䕒𤐵暳𡂴嘷曍𣊊暤暭噍噏磱囱鞇叾圀囯园𨭦㘣𡉏"),
    (0xfb60, "坆𤆥汮炋坂㚱𦱾埦𡐖堃𡑔𤍣堦𤯵塜墪㕡壠壜𡈼壻寿坃𪅐𤉸鏓㖡够梦㛃湙"),
    (0xfba1, "𡘾娤啓𡚒蔅姉𠵎𦲁𦴪𡟜姙𡟻𡞲𦶦浱𡠨𡛕姹𦹅媫婣㛦𤦩\ufffd㜈媖瑥嫓𦾡𢕔㶅𡤑"),
    (0xfbc1, "㜲𡚸広勐孶斈孼𧨎䀄䡝𠈄寕慠𡨴𥧌𠖥寳宝䴐尅𡭄尓珎尔𡲥𦬨屉䣝岅峩峯嶋"),
    (0xfbe1, "𡷹𡸷崐崘嵆𡺤岺巗苼㠭𤤁𢁉𢅳芇㠶㯂帮檊\ufffd幺𤒼𠳓厦亷\ufffd厨𡝱帉廴𨒂"),
    (0xfc40, "廹廻㢠廼栾鐛弍𠇁弢㫞䢮𡌺强𦢈𢏐\ufffd𢑱彣鞽𦹮彲鍀𨨶徧嶶㵟𥉐𡽪𧃸𢙨釖𠊞"),
    (0xfc60, "𨨩怱暅𡡷㥣㷇㘹垐𢞴祱㹀悞\ufffd悳𤦂𤦏𧩓璤僡媠慤萤慂慈𦻒憁凴𠙖憇宪𣾷"),
    (0xfca1, "𢡟懓𨮝𩥝懐㤲𢦀𢣁怣慜攞掋𠄘担𡝰拕𢸍捬𤧟㨗搸揸𡎎𡟼\ufffd澊𢸶頔𤂌𥜝擡擥"),
    (0xfcc1, "鑻㩦携㩗敍漖𤨨𤨣斅敭敟𣁾斵𤥀䬷旑䃘𡠩无旣忟𣐀昘𣇷𣇸晄𣆤𣆥晋𠹵晧𥇦"),
    (0xfce1, "晳\ufffd𡸽𣈱𨗴𣇈𥌓矅𢣷馤朂𤎜𤨡㬫槺𣟂\ufffd杧杢𤇍𩃭柗䓩栢湐鈼栁𣏦𦶠桝"),
    (0xfd40, "𣑯槡樋𨫟楳棃𣗍椁椀㴲㨁𣘼㮀枬楡𨩊䋼椶榘㮡𠏉荣傐槹𣙙𢄪橅𣜃檝㯳枱櫈"),
    (0xfd60, "𩆜㰍欝𠤣惞欵歴𢟍溵𣫛𠎵𡥘㝀吡𣭚毡𣻼毜氷𢒋𤣱𦭑汚舦汹𣶼䓅𣶽𤆤𤤌𤤀"),
    (0xfda1, "𣳉㛥㳫𠴲鮃𣇹𢒑羏样𦴥𦶡𦷫涖浜湼漄𤥿𤂅𦹲蔳𦽴凇\ufffd\ufffd萮𨬡\ufffd𣸯瑓𣾂秌湏"),
    (0xfdc1, "媑𣁋濸㜍澝𣸰滺𡒗𤀽䕕鏰潄潜㵎潴𩅰㴻澟𤅄濓𤂑𤅕𤀹𣿰𣾴𤄿凟𤅖𤅗𤅀𦇝灋"),
    (0xfde1, "灾炧炁烌烕烖烟䄄㷨熴熖𤉷焫煅媈煊\ufffd岜𤍥煏鍢𤋁焬𤑚𤨧𤨢熺𨯨炽爎"),
    (0xfe40, "鑂爕夑鑃爤鍁𥘅爮牀𤥴梽牕牗㹕𣁄栍漽犂\ufffd猫𤠣𨠫䣭𨠄猨献珏玪𠰺𦨮珉瑉"),
    (0xfe60, "𤇢𡛧𤨤昣㛅𤦷𤦍𤧻珷琕椃𤨦琹𠗃㻗\ufffd𢢭瑠𨺲瑇珤瑶莹瑬㜰瑴鏱樬璂䥓𤪌"),
    (0xfea1, "𤅟𤩹𨮏孆𨰃𡢞瓈𡦈甎\ufffd甞𨻙𡩋寗𨺬鎅畍畊畧畮𤾂㼄𤴓疎瑝疞疴瘂瘬癑癏癯"),
    (0xfec1, "癶𦏵皐臯㟸𦤑𦤎皡皥皷盌𦾟葢𥂝𥅽𡸜眞眦着撯𥈠睘𣊬瞯𨥤𨥨𡛁矴\ufffd𡍶𤨒棊"),
    (0xfee1, "碯磇磓隥礮𥗠磗礴碱𧘌辸袄𨬫𦂃𢘜禆褀椂禀𥡗禝𧬹礼禩渪𧄦㺨秆𩄍秔")]⟩

/-- The marks of the characters that are a base and a mark. -/
def hkscsMarks : CodeTable :=
  ⟨[
    (0x8862, "\u0304\ufffd\u030c"),
    (0x88a3, "\u0304\ufffd\u030c")]⟩

end Toolsmith.CodeTable
